import StarterCode.Proofs.TypeExpr.Scan

/-!
# Tokens written out

`Spells text tokens` says how a text is written that is made of some tokens: they stand in it from
left to right, with blanks in front and blanks behind each of them. Only between two words there
must be a blank.

The scan finds the tokens of a text, and nothing else: its answer is `tokens` exactly when the text
spells them and each word among them is a run of name characters (`scan_eq_ok_iff`). So a statement
about what is scanned may be read as one about how the text is written.

From the text to the tokens, the induction is on the layout: behind a word the text ends or goes on
with a character that no word contains, which is where the scan may be cut. In the other direction
it is on the scan, with the letters of the unfinished word in front of the text.
-/

set_option autoImplicit false

namespace StarterCode.Token

/-- The token as it is written. -/
def text : Token → List Char
  | .word letters => letters
  | .comma => [',']
  | .leftAngle => ['<']
  | .rightAngle => ['>']
  | .brackets => ['[', ']']

/-- Whether the token is a word. -/
def isWord : Token → Bool
  | .word _ => true
  | _ => false

/-- A word is a run of name characters, which is not empty. Signs are as they are. -/
def Formed : Token → Prop
  | .word letters => letters ≠ [] ∧ letters.all Text.isNameChar = true
  | _ => True

/-- Nothing but blanks. -/
def IsGap (gap : List Char) : Prop :=
  ∀ c ∈ gap, Text.isBlank c = true

/-- Whether the first of the tokens is a word. -/
def beginsWithWord (tokens : List Token) : Bool :=
  tokens.head?.any isWord

/-- The text is the tokens from left to right, each with a gap behind it. The gap between two words
is not empty. -/
inductive LaidOut : List Char → List Token → Prop where
  /-- No token takes no room. -/
  | nil : LaidOut [] []
  /-- A token, the gap behind it, and the other tokens. -/
  | cons {token : Token} {gap rest : List Char} {tokens : List Token} (hgap : IsGap gap)
      (hapart : token.isWord = true → beginsWithWord tokens = true → gap ≠ [])
      (hrest : LaidOut rest tokens) : LaidOut (token.text ++ (gap ++ rest)) (token :: tokens)

/-- The text is a gap and behind it the tokens with their gaps. -/
def Spells (text : List Char) (tokens : List Token) : Prop :=
  ∃ gap body, text = gap ++ body ∧ IsGap gap ∧ LaidOut body tokens

theorem isGap_nil : IsGap [] :=
  fun _ hc => absurd hc List.not_mem_nil

/-! ## What is written is scanned -/

/-- A sign in front of a text is a token in front of its tokens. -/
theorem scan_sign {sign : Token} (hsign : sign.isWord = false) {rest : List Char}
    {tokens : List Token} (h : scan rest = .ok tokens) :
    scan (sign.text ++ rest) = .ok (sign :: tokens) := by
  cases sign with
  | word letters => cases hsign
  | comma => exact scan_comma h
  | leftAngle => exact scan_leftAngle h
  | rightAngle => exact scan_rightAngle h
  | brackets => exact scan_brackets h

/-- A sign begins with a character that no word contains, and not with the second half of a
suffix. -/
theorem exists_text_of_sign {sign : Token} (hsign : sign.isWord = false) :
    ∃ c behind, sign.text = c :: behind ∧ Text.isNameChar c = false ∧ c ≠ ']' := by
  cases sign with
  | word letters => cases hsign
  | _ => exact ⟨_, _, rfl, by decide, by decide⟩

/-- What follows a word is empty or begins with a character that no word contains. -/
theorem LaidOut.eq_nil_or_cut {gap rest : List Char} {tokens : List Token} (hgap : IsGap gap)
    (hapart : beginsWithWord tokens = true → gap ≠ []) (hrest : LaidOut rest tokens) :
    gap ++ rest = [] ∨
      ∃ c behind, gap ++ rest = c :: behind ∧ Text.isNameChar c = false ∧ c ≠ ']' := by
  cases gap with
  | cons c gap =>
    have hc := hgap c List.mem_cons_self
    refine .inr ⟨c, gap ++ rest, rfl, isNameChar_of_isBlank hc, ?_⟩
    rintro rfl
    exact absurd hc (by decide)
  | nil =>
    cases hrest with
    | nil => exact .inl rfl
    | @cons next gap' rest' tokens hgap' hapart' hrest' =>
      -- without a gap the next token is no word
      have hsign : next.isWord = false := by
        rw [Bool.eq_false_iff]
        exact fun hword => hapart hword rfl
      obtain ⟨c, behind, htext, hc, hbracket⟩ := exists_text_of_sign hsign
      exact .inr ⟨c, behind ++ (gap' ++ rest'), by rw [htext]; rfl, hc, hbracket⟩

theorem scan_of_laidOut {body : List Char} {tokens : List Token} (h : LaidOut body tokens)
    (hformed : ∀ token ∈ tokens, token.Formed) : scan body = .ok tokens := by
  induction h with
  | nil => rfl
  | @cons token gap rest tokens hgap hapart hrest ih =>
    have hscan : scan (gap ++ rest) = .ok tokens := by
      rw [scan_append_of_all_isBlank hgap]
      exact ih fun other hother => hformed other (List.mem_cons_of_mem _ hother)
    cases htoken : token.isWord with
    | false => exact scan_sign htoken hscan
    | true =>
      cases token with
      | word letters =>
        obtain ⟨hne, hall⟩ := hformed (.word letters) List.mem_cons_self
        have hword : scan letters = .ok [.word letters] := scan_of_all_isNameChar hne hall
        rcases LaidOut.eq_nil_or_cut hgap (hapart rfl) hrest with hnil | ⟨c, behind, hcut, hc, hb⟩
        · -- the word is the last token
          rw [hnil] at hscan ⊢
          cases hscan
          rw [List.append_nil]
          exact hword
        · rw [hcut] at hscan ⊢
          exact scan_append hc hb hword hscan
      | _ => cases htoken

/-! ## What is scanned is written -/

/-- The text spells the tokens, and they are formed. -/
structure Spelled (text : List Char) (tokens : List Token) : Prop where
  /-- The tokens stand in the text, with gaps between them. -/
  spells : Spells text tokens
  /-- Each word is a run of name characters. -/
  formed : ∀ token ∈ tokens, token.Formed

/-- A word that is completed stands in front of the gap behind it. -/
theorem Spelled.completed {letters gap rest : List Char} {tokens : List Token}
    (hletters : letters.all Text.isNameChar = true) (hgap : IsGap gap)
    (hapart : beginsWithWord tokens = true → gap ≠ []) (hrest : LaidOut rest tokens)
    (hformed : ∀ token ∈ tokens, token.Formed) :
    Spelled (letters.reverse ++ (gap ++ rest)) (completed letters ++ tokens) := by
  rw [Token.completed]
  by_cases hempty : letters.isEmpty = true
  · rw [if_pos hempty, List.isEmpty_iff.mp hempty]
    exact ⟨⟨gap, rest, rfl, hgap, hrest⟩, hformed⟩
  · rw [if_neg hempty]
    have hword : LaidOut ((Token.word letters.reverse).text ++ (gap ++ rest))
        (.word letters.reverse :: tokens) := .cons hgap (fun _ => hapart) hrest
    refine ⟨⟨[], _, rfl, isGap_nil, hword⟩, List.forall_mem_cons.mpr ⟨⟨?_, ?_⟩, hformed⟩⟩
    · rw [ne_eq, List.reverse_eq_nil_iff, ← List.isEmpty_iff]
      exact hempty
    · rw [List.all_reverse]
      exact hletters

section Behind

variable {letters rest : List Char} {tokens : List Token}

/-- The end of the text behind a word. -/
theorem Spelled.end (hletters : letters.all Text.isNameChar = true) :
    Spelled letters.reverse (Token.completed letters) := by
  have hend : Spelled (letters.reverse ++ ([] ++ [])) (Token.completed letters ++ []) :=
    .completed hletters isGap_nil (fun h => absurd h Bool.false_ne_true) .nil
      (List.forall_mem_nil _)
  simp only [List.append_nil] at hend
  exact hend

/-- A blank behind a word, and what follows it. -/
theorem Spelled.blank (h : Spelled rest tokens) (hletters : letters.all Text.isNameChar = true)
    {c : Char} (hc : Text.isBlank c = true) :
    Spelled (letters.reverse ++ c :: rest) (Token.completed letters ++ tokens) := by
  obtain ⟨⟨gap, body, rfl, hgap, hbody⟩, hformed⟩ := h
  have hlonger : IsGap (c :: gap) := List.forall_mem_cons.mpr ⟨hc, hgap⟩
  exact Spelled.completed hletters hlonger (fun _ => List.cons_ne_nil _ _) hbody hformed

/-- A sign behind a word, and what follows it. -/
theorem Spelled.sign (h : Spelled rest tokens) (hletters : letters.all Text.isNameChar = true)
    (sign : Token) (hsign : sign.isWord = false) :
    Spelled (letters.reverse ++ (sign.text ++ rest))
      (Token.completed letters ++ sign :: tokens) := by
  obtain ⟨⟨gap, body, rfl, hgap, hbody⟩, hformed⟩ := h
  have hnever : ¬ sign.isWord = true := Bool.eq_false_iff.mp hsign
  have hlaid : LaidOut (sign.text ++ (gap ++ body)) (sign :: tokens) :=
    .cons hgap (fun hword => absurd hword hnever) hbody
  have hsound : sign.Formed := by
    cases sign with
    | word letters => cases hsign
    | _ => trivial
  have hbehind : Spelled (letters.reverse ++ ([] ++ (sign.text ++ (gap ++ body))))
      (Token.completed letters ++ sign :: tokens) :=
    .completed hletters isGap_nil (fun hword => absurd hword hnever) hlaid
      (List.forall_mem_cons.mpr ⟨hsound, hformed⟩)
  exact hbehind

end Behind

/-- What makes no token is a blank, and what makes one is the sign itself. -/
theorem blank_or_sign_of_ofMark {c : Char} {tokens : List Token} (h : ofMark c = .ok tokens) :
    (Text.isBlank c = true ∧ tokens = []) ∨
      ∃ sign : Token, sign.isWord = false ∧ sign.text = [c] ∧ tokens = [sign] := by
  rw [ofMark] at h
  split at h
  · next hblank =>
    cases h
    exact .inl ⟨hblank, rfl⟩
  split at h
  · next hcomma =>
    cases h
    exact .inr ⟨.comma, rfl, by rw [hcomma]; rfl, rfl⟩
  split at h
  · next hleft =>
    cases h
    exact .inr ⟨.leftAngle, rfl, by rw [hleft]; rfl, rfl⟩
  split at h
  · next hright =>
    cases h
    exact .inr ⟨.rightAngle, rfl, by rw [hright]; rfl, rfl⟩
  -- all other characters are refused
  split at h <;> cases h

/-- Scanning behind the letters of an unfinished word, by induction on the scan. -/
theorem spelled_of_scanAfter {letters text : List Char} {tokens : List Token}
    (hletters : letters.all Text.isNameChar = true) (h : scanAfter letters text = .ok tokens) :
    Spelled (letters.reverse ++ text) tokens := by
  have hnone : ([] : List Char).all Text.isNameChar = true := rfl
  induction letters, text using scan_induction generalizing tokens with
  | nil letters =>
    cases h
    rw [List.append_nil]
    exact .end hletters
  | suffix letters rest ih =>
    rw [scanAfter_suffix] at h
    obtain ⟨others, hothers, h⟩ := bind_eq_ok.mp h
    cases h
    rw [List.append_assoc, List.singleton_append]
    exact (ih hnone hothers).sign hletters .brackets rfl
  | name letters c rest hname ih =>
    rw [scanAfter_name letters hname] at h
    have hlonger : (c :: letters).all Text.isNameChar = true := by
      rw [List.all_cons, hname, hletters, Bool.and_self]
    have hrest := ih hlonger h
    rwa [List.reverse_cons, List.append_assoc] at hrest
  | mark letters c rest hnot hname ih =>
    rw [scanAfter_mark letters hnot hname] at h
    obtain ⟨made, hmade, h⟩ := bind_eq_ok.mp h
    obtain ⟨others, hothers, h⟩ := bind_eq_ok.mp h
    cases h
    rw [List.append_assoc]
    rcases blank_or_sign_of_ofMark hmade with ⟨hblank, rfl⟩ | ⟨sign, hsign, htext, rfl⟩
    · exact (ih hnone hothers).blank hletters hblank
    · have hbehind := (ih hnone hothers).sign hletters sign hsign
      rw [htext] at hbehind
      exact hbehind

/-- **What is scanned is what is written.** The tokens of a text are those that it spells, each of
its words a run of name characters. -/
theorem scan_eq_ok_iff {text : List Char} {tokens : List Token} :
    scan text = .ok tokens ↔ Spelled text tokens := by
  constructor
  · intro h
    exact spelled_of_scanAfter rfl h
  · rintro ⟨⟨gap, body, rfl, hgap, hbody⟩, hformed⟩
    rw [scan_append_of_all_isBlank hgap]
    exact scan_of_laidOut hbody hformed

end StarterCode.Token
