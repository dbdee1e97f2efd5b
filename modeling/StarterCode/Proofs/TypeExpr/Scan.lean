import StarterCode.Proofs.Result
import StarterCode.Proofs.Text.Blank
import StarterCode.TypeExpr.Token

/-!
# Scanning in parts

A text may be cut before any character that no word contains, and its tokens are then those of the
two parts one after the other. The only character before which this fails is `]`, the second half
of a suffix.

The scan takes one of four steps: it ends, it passes a suffix, it goes on with a word, or it passes
a character that no word contains. Statements about it are proved by induction on these steps
(`scan_induction`); which signs there are is a matter of the last one alone (`ofMark`). The scan
carries the letters of the word it is in, so what goes through the induction is about `scanAfter`,
and the cut completes the word.

What the parts are is settled here too: blanks hold no token, a sign is a token by itself, and a run
of name characters is a word.
-/

set_option autoImplicit false

namespace StarterCode.Token

/-! ## One step of the scan -/

/-- The tokens of a character that no word contains and that begins no suffix: none for a blank and
one for a sign. The scan refuses all others. -/
def ofMark (c : Char) : Except TypeError (List Token) :=
  if Text.isBlank c then .ok []
  else if c = ',' then .ok [.comma]
  else if c = '<' then .ok [.leftAngle]
  else if c = '>' then .ok [.rightAngle]
  else if c = '[' then .error .looseBracket
  else .error (.strayChar c)

theorem scanAfter_suffix (letters rest : List Char) :
    scanAfter letters ('[' :: ']' :: rest) = do
      let after ← scanAfter [] rest
      return completed letters ++ [.brackets] ++ after := by
  rw [scanAfter]
  simp only [List.append_assoc, List.singleton_append]

theorem scanAfter_name (letters : List Char) {c : Char} (hname : Text.isNameChar c = true)
    (rest : List Char) : scanAfter letters (c :: rest) = scanAfter (c :: letters) rest := by
  have hnot : ∀ behind, c = '[' → rest = ']' :: behind → False := by
    rintro behind rfl -
    exact absurd hname (by decide)
  rw [scanAfter.eq_3 _ _ _ hnot, if_pos hname]

theorem scanAfter_mark (letters : List Char) {c : Char} {rest : List Char}
    (hnot : ∀ behind, c = '[' → rest = ']' :: behind → False) (hc : Text.isNameChar c = false) :
    scanAfter letters (c :: rest) = do
      let tokens ← ofMark c
      let after ← scanAfter [] rest
      return completed letters ++ tokens ++ after := by
  have hmade : ∀ tokens : List Token,
      (scanAfter [] rest >>= fun after => pure (completed letters ++ (tokens ++ after))) =
        (.ok tokens : Except TypeError (List Token)) >>= fun tokens =>
          scanAfter [] rest >>= fun after => pure (completed letters ++ tokens ++ after) := by
    intro tokens
    cases scanAfter [] rest with
    | error e => rfl
    | ok after => exact congrArg Except.ok (List.append_assoc _ _ _).symm
  rw [scanAfter.eq_3 _ _ _ hnot, if_neg (Bool.eq_false_iff.mp hc), ofMark]
  -- a blank, the three signs that stand alone, and the characters that are refused
  split
  · exact hmade []
  split
  · exact hmade [.comma]
  split
  · exact hmade [.leftAngle]
  split
  · exact hmade [.rightAngle]
  split <;> rfl

/-- Induction along the scan: the end of the text, a suffix, a character of a word, and a character
that no word contains. -/
theorem scan_induction {motive : List Char → List Char → Prop}
    (nil : ∀ letters, motive letters [])
    (suffix : ∀ letters rest, motive [] rest → motive letters ('[' :: ']' :: rest))
    (name : ∀ letters c rest, Text.isNameChar c = true → motive (c :: letters) rest →
      motive letters (c :: rest))
    (mark : ∀ letters c rest, (∀ behind, c = '[' → rest = ']' :: behind → False) →
      Text.isNameChar c = false → motive [] rest → motive letters (c :: rest)) :
    ∀ letters text, motive letters text
  | letters, [] => nil letters
  | letters, c :: rest => by
    by_cases hsuffix : ∃ behind, c = '[' ∧ rest = ']' :: behind
    · obtain ⟨behind, rfl, rfl⟩ := hsuffix
      exact suffix letters behind (scan_induction nil suffix name mark [] behind)
    · by_cases hname : Text.isNameChar c = true
      · exact name letters c rest hname (scan_induction nil suffix name mark (c :: letters) rest)
      · exact mark letters c rest (fun behind hc hrest => hsuffix ⟨behind, hc, hrest⟩)
          (Bool.eq_false_iff.mpr hname) (scan_induction nil suffix name mark [] rest)
termination_by _ text => text.length

/-! ## A text in two parts -/

/-- A character that no word contains completes the word in front of it. -/
theorem scanAfter_cons (letters : List Char) {c : Char} (hc : Text.isNameChar c = false)
    (rest : List Char) :
    scanAfter letters (c :: rest) = (scan (c :: rest)).map (completed letters ++ ·) := by
  have hmap : ∀ (tokens : List Token) (after : Except TypeError (List Token)),
      (after >>= fun after => pure (completed letters ++ tokens ++ after)) =
        (after >>= fun after => pure (tokens ++ after)).map (completed letters ++ ·) := by
    intro tokens after
    cases after with
    | error e => rfl
    | ok after => exact congrArg Except.ok (List.append_assoc _ _ _)
  by_cases hsuffix : ∃ behind, c = '[' ∧ rest = ']' :: behind
  · obtain ⟨behind, rfl, rfl⟩ := hsuffix
    rw [scan, scanAfter_suffix, scanAfter_suffix]
    exact hmap _ _
  · have hnot : ∀ behind, c = '[' → rest = ']' :: behind → False :=
      fun behind hc hrest => hsuffix ⟨behind, hc, hrest⟩
    rw [scan, scanAfter_mark letters hnot hc, scanAfter_mark [] hnot hc]
    cases ofMark c with
    | error e => rfl
    | ok tokens => exact hmap tokens _

/-- Where two signs are no suffix, they are none with the second part behind them either. -/
theorem not_suffix_append {c d : Char} {front rest : List Char} (hbracket : c ≠ ']')
    (hnot : ∀ behind, d = '[' → front = ']' :: behind → False) :
    ∀ behind, d = '[' → front ++ c :: rest = ']' :: behind → False := by
  intro behind hd heq
  cases front with
  | nil => exact hbracket (List.head_eq_of_cons_eq heq)
  | cons e front =>
    rw [List.cons_append] at heq
    exact hnot front hd (by rw [List.head_eq_of_cons_eq heq])

/-- Tokens in front of those of the first part come before those of both. -/
theorem append_bind (tokens : List Token) (first second : Except TypeError (List Token)) :
    ((first >>= fun before => second >>= fun after => pure (before ++ after)) >>=
        fun both => pure (tokens ++ both)) =
      (first >>= fun before => pure (tokens ++ before)) >>= fun before =>
        second >>= fun after => pure (before ++ after) := by
  cases first with
  | error e => rfl
  | ok before =>
    cases second with
    | error e => rfl
    | ok after => simp [bind, Except.bind, pure, Except.pure]

/-- A text with a cut before a character that no word contains. -/
theorem scanAfter_append (letters front : List Char) {c : Char} (hc : Text.isNameChar c = false)
    (hbracket : c ≠ ']') (rest : List Char) :
    scanAfter letters (front ++ c :: rest) = do
      let before ← scanAfter letters front
      let after ← scan (c :: rest)
      return before ++ after := by
  induction letters, front using scan_induction with
  | nil letters =>
    rw [List.nil_append, scanAfter_cons letters hc]
    cases scan (c :: rest) <;> rfl
  | suffix letters front ih =>
    rw [List.cons_append, List.cons_append, scanAfter_suffix, scanAfter_suffix, ih]
    exact append_bind _ _ _
  | name letters d front hname ih =>
    rw [List.cons_append, scanAfter_name letters hname, scanAfter_name letters hname, ih]
  | mark letters d front hnot hname ih =>
    rw [List.cons_append, scanAfter_mark letters (not_suffix_append hbracket hnot) hname,
      scanAfter_mark letters hnot hname, ih]
    cases ofMark d with
    | error e => rfl
    | ok tokens => exact append_bind (completed letters ++ tokens) _ _

/-- The tokens of two parts, the second of which begins with a character that no word contains. -/
theorem scan_append {front rest : List Char} {before after : List Token} {c : Char}
    (hc : Text.isNameChar c = false) (hbracket : c ≠ ']') (hfront : scan front = .ok before)
    (hrest : scan (c :: rest) = .ok after) : scan (front ++ c :: rest) = .ok (before ++ after) := by
  have happend := scanAfter_append [] front hc hbracket rest
  rw [show scanAfter [] front = .ok before from hfront, hrest] at happend
  exact happend

/-! ## Blanks -/

theorem isNameChar_of_isBlank {c : Char} (h : Text.isBlank c = true) :
    Text.isNameChar c = false := by
  rw [Bool.eq_false_iff]
  intro hname
  rw [Text.isBlank_of_isNameChar hname] at h
  cases h

theorem scan_cons_of_isBlank {c : Char} (h : Text.isBlank c = true) (rest : List Char) :
    scan (c :: rest) = scan rest := by
  have hnot : ∀ behind, c = '[' → rest = ']' :: behind → False := by
    rintro behind rfl -
    exact absurd h (by decide)
  have hmark : ofMark c = .ok [] := by rw [ofMark, if_pos h]
  rw [scan, scanAfter_mark [] hnot (isNameChar_of_isBlank h), hmark, scan]
  cases scanAfter [] rest <;> rfl

/-- Blanks in front of a text hold no token. -/
theorem scan_append_of_all_isBlank {gap : List Char} (h : ∀ c ∈ gap, Text.isBlank c = true)
    (rest : List Char) : scan (gap ++ rest) = scan rest := by
  induction gap with
  | nil => rfl
  | cons c gap ih =>
    rw [List.cons_append, scan_cons_of_isBlank (h c List.mem_cons_self)]
    exact ih fun d hd => h d (List.mem_cons_of_mem c hd)

theorem scan_append_of_isBlank (s : List Char) {back : List Char}
    (h : ∀ c ∈ back, Text.isBlank c = true) : scan (s ++ back) = scan s := by
  cases back with
  | nil => rw [List.append_nil]
  | cons c back =>
    have hc : Text.isBlank c = true := h c List.mem_cons_self
    have hbracket : c ≠ ']' := by
      rintro rfl
      exact absurd hc (by decide)
    -- a blank ends the word before it, so the two texts are scanned one after the other
    have happend := scanAfter_append [] s (isNameChar_of_isBlank hc) hbracket back
    have hback : scan (c :: back) = .ok [] := by
      rw [← List.append_nil (c :: back), scan_append_of_all_isBlank h]
      rfl
    rw [scan, happend, hback, scan]
    cases scanAfter [] s with
    | error e => rfl
    | ok tokens => exact congrArg Except.ok (List.append_nil tokens)

/-- Blanks at the ends of a text hold no token. -/
theorem scan_trim (s : List Char) : scan (Text.trim s) = scan s := by
  have hleft : scan (Text.trimLeft s) = scan s := by
    have hgap : ∀ c ∈ s.takeWhile Text.isBlank, Text.isBlank c = true :=
      List.all_eq_true.mp List.all_takeWhile
    conv_rhs => rw [← List.takeWhile_append_dropWhile (p := Text.isBlank) (l := s)]
    rw [scan_append_of_all_isBlank hgap, Text.trimLeft]
  obtain ⟨back, htext, hback⟩ := Text.exists_trimRight (Text.trimLeft s)
  rw [← hleft, Text.trim, htext, scan_append_of_isBlank _ hback, ← htext]

/-! ## Signs -/

/-- A sign of one character in front of a text is a token in front of its tokens. -/
theorem scan_mark {c : Char} {sign : Token} (hc : Text.isNameChar c = false) (hbracket : c ≠ '[')
    (hsign : ofMark c = .ok [sign]) {rest : List Char} {tokens : List Token}
    (h : scan rest = .ok tokens) : scan (c :: rest) = .ok (sign :: tokens) := by
  have hnot : ∀ behind, c = '[' → rest = ']' :: behind → False := fun _ hc _ => hbracket hc
  rw [scan, scanAfter_mark [] hnot hc, hsign, show scanAfter [] rest = .ok tokens from h]
  rfl

theorem scan_comma {rest : List Char} {tokens : List Token} (h : scan rest = .ok tokens) :
    scan (',' :: rest) = .ok (.comma :: tokens) :=
  scan_mark (by decide) (by decide) rfl h

theorem scan_leftAngle {rest : List Char} {tokens : List Token} (h : scan rest = .ok tokens) :
    scan ('<' :: rest) = .ok (.leftAngle :: tokens) :=
  scan_mark (by decide) (by decide) rfl h

theorem scan_rightAngle {rest : List Char} {tokens : List Token} (h : scan rest = .ok tokens) :
    scan ('>' :: rest) = .ok (.rightAngle :: tokens) :=
  scan_mark (by decide) (by decide) rfl h

/-- So is a suffix, which is a sign of two characters. -/
theorem scan_brackets {rest : List Char} {tokens : List Token} (h : scan rest = .ok tokens) :
    scan ('[' :: ']' :: rest) = .ok (.brackets :: tokens) := by
  rw [scan, scanAfter_suffix, show scanAfter [] rest = .ok tokens from h]
  rfl

/-! ## Words -/

/-- A run of name characters continues a word. -/
theorem scanAfter_of_all_isNameChar (letters : List Char) {front : List Char}
    (h : front.all Text.isNameChar = true) :
    scanAfter letters front = .ok (completed (front.reverse ++ letters)) := by
  induction front generalizing letters with
  | nil => rfl
  | cons c front ih =>
    rw [List.all_cons, Bool.and_eq_true] at h
    rw [scanAfter_name letters h.1, ih (c :: letters) h.2, List.reverse_cons, List.append_assoc,
      List.singleton_append]

/-- Name characters by themselves are a word. -/
theorem scan_of_all_isNameChar {letters : List Char} (hne : letters ≠ [])
    (h : letters.all Text.isNameChar = true) : scan letters = .ok [.word letters] := by
  have hsome : letters.isEmpty = false := by rwa [List.isEmpty_eq_false_iff]
  rw [scan, scanAfter_of_all_isNameChar [] h, List.append_nil, completed, List.reverse_reverse,
    List.isEmpty_reverse, hsome]
  rfl

/-- An identifier is a word. -/
theorem scan_of_isIdentifier {name : List Char} (h : Text.isIdentifier name = true) :
    scan name = .ok [.word name] :=
  scan_of_all_isNameChar (Text.ne_nil_of_isIdentifier h)
    (List.all_eq_true.mpr (Text.all_isNameChar_of_isIdentifier h))

end StarterCode.Token
