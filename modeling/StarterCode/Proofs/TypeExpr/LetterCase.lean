import Mathlib.Data.List.Forall2
import StarterCode.Proofs.Text.LetterCase
import StarterCode.Proofs.TypeExpr.Layout
import StarterCode.Proofs.TypeExpr.Soundness

/-!
# Letter case in type expressions

Keywords and connectives are read in any letter case, and only custom names keep the case in which
they are written. So two texts that differ in the case of letters alone are both accepted or both
refused, and the types they denote differ in the case of their custom names alone.

The two texts have the same small letters, so it is enough to compare a text with its small letters.
Every function on the way from the text to the type commutes with writing small letters: the scan,
each rule of the grammar if the reader for the types inside does (`IgnoresCase`), and the tie
between the rules by induction on the levels. Errors come along, with the words and types that they
quote in small letters.
-/

set_option autoImplicit false

namespace StarterCode

/-! ## Small letters -/

namespace Keyword

theorem fold_fold (word : List Char) : fold (fold word) = fold word := by
  rw [fold, fold, List.map_map]
  exact List.map_congr_left fun c _ => Text.toLower_toLower c

theorem ofWord?_fold (word : List Char) : ofWord? (fold word) = ofWord? word := by
  rw [ofWord?, fold_fold, ofWord?]

theorem Connective.matches_fold (connective : Connective) (word : List Char) :
    connective.matches (fold word) = connective.matches word := by
  rw [Connective.matches, fold_fold, Connective.matches]

theorem isConnective_fold (word : List Char) : isConnective (fold word) = isConnective word := by
  rw [isConnective, Connective.matches_fold, Connective.matches_fold, isConnective]

theorem isIdentifier_fold (word : List Char) :
    Text.isIdentifier (fold word) = Text.isIdentifier word :=
  Text.isIdentifier_map_toLower word

end Keyword

mutual

/-- The type with its custom names in small letters. -/
def ValueType.folded : ValueType → ValueType
  | .array element => .array element.folded
  | .tuple components => .tuple (ValueType.foldedAll components)
  | .custom name => .custom (String.ofList (Keyword.fold name.toList))
  | type => type

/-- The types with their custom names in small letters. -/
def ValueType.foldedAll : List ValueType → List ValueType
  | [] => []
  | type :: types => type.folded :: ValueType.foldedAll types

end

/-- The token with its letters, if it is a word, in small letters. -/
def Token.folded : Token → Token
  | .word letters => .word (Keyword.fold letters)
  | sign => sign

/-- The error with the words and types that it quotes in small letters. -/
def TypeError.folded : TypeError → TypeError
  | .unexpected wanted found => .unexpected wanted found.folded
  | .notTypeName letters => .notTypeName (Keyword.fold letters)
  | .trailing token type => .trailing token.folded type.folded
  | error => error

theorem ValueType.length_foldedAll (types : List ValueType) :
    (ValueType.foldedAll types).length = types.length := by
  induction types with
  | nil => rfl
  | cons type types ih => rw [ValueType.foldedAll, List.length_cons, List.length_cons, ih]

theorem ValueType.folded_of_isScalar {type : ValueType} (h : type.isScalar = true) :
    type.folded = type := by
  cases type <;> first | rfl | cases h

/-- A sign has no letters. -/
theorem Token.folded_of_sign {sign : Token} (h : sign.isWord = false) : sign.folded = sign := by
  cases sign with
  | word letters => cases h
  | _ => rfl

theorem Token.folded_eq_sign_iff {sign : Token} (h : sign.isWord = false) (token : Token) :
    token.folded = sign ↔ token = sign := by
  constructor
  · rintro rfl
    cases token with
    | word letters => cases h
    | _ => rfl
  · rintro rfl
    exact folded_of_sign h

/-! ## Results in small letters -/

namespace TypeExpr

/-- The result with its answer changed by `small` and its error in small letters. -/
def inSmall {α : Type} (small : α → α) (result : Except TypeError α) : Except TypeError α :=
  (result.map small).mapError TypeError.folded

/-- A chain is in small letters when both of its parts are. -/
theorem inSmall_bind {α β : Type} {small : α → α} {small' : β → β}
    {first first' : Except TypeError α}
    {next next' : α → Except TypeError β} (hfirst : first' = inSmall small first)
    (hnext : ∀ a, next' (small a) = inSmall small' (next a)) :
    (first' >>= next') = inSmall small' (first >>= next) := by
  subst hfirst
  cases first with
  | error e => rfl
  | ok a => exact hnext a

/-- The tokens in small letters. -/
abbrev foldedTokens (tokens : List Token) : List Token :=
  tokens.map Token.folded

theorem foldedTokens_sign {sign : Token} (hsign : sign.isWord = false) (tokens : List Token) :
    foldedTokens (sign :: tokens) = sign :: foldedTokens tokens := by
  rw [foldedTokens, List.map_cons, Token.folded_of_sign hsign]

/-- On tokens in small letters the reader gives the same answer in small letters, with the rest of
the tokens in small letters. -/
def IgnoresCase {α : Type} (small : α → α) (reader : Reader α) : Prop :=
  ∀ tokens, reader (foldedTokens tokens) = inSmall (Prod.map small foldedTokens) (reader tokens)

/-! ## Single tokens -/

theorem refuse_folded {α : Type} (small : α → α) (wanted : Expected) (tokens : List Token) :
    refuse wanted (foldedTokens tokens) = inSmall small (refuse wanted tokens) := by
  cases tokens <;> rfl

theorem skipSign_folded {sign : Token} (hsign : sign.isWord = false) (tokens : List Token) :
    skipSign sign (foldedTokens tokens) = inSmall foldedTokens (skipSign sign tokens) := by
  cases tokens with
  | nil => rfl
  | cons found rest =>
    rw [foldedTokens, List.map_cons, skipSign, skipSign]
    by_cases hfound : found = sign
    · rw [if_pos hfound, if_pos ((Token.folded_eq_sign_iff hsign found).mpr hfound)]
      rfl
    · rw [if_neg hfound, if_neg fun h => hfound ((Token.folded_eq_sign_iff hsign found).mp h)]
      rfl

theorem connective?_folded (connective : Keyword.Connective) (tokens : List Token) :
    connective? connective (foldedTokens tokens) =
      (connective? connective tokens).map foldedTokens := by
  cases tokens with
  | nil => rfl
  | cons found rest =>
    cases found with
    | word letters =>
      rw [foldedTokens, List.map_cons, Token.folded, connective?, connective?,
        Keyword.Connective.matches_fold]
      split <;> rfl
    | _ => rfl

theorem skipConnective_folded (connective : Keyword.Connective) (tokens : List Token) :
    skipConnective connective (foldedTokens tokens) =
      inSmall foldedTokens (skipConnective connective tokens) := by
  rw [skipConnective, skipConnective, connective?_folded]
  cases connective? connective tokens with
  | some rest => rfl
  | none => exact refuse_folded foldedTokens _ tokens

/-- Tokens in small letters begin with a sign where the tokens themselves do. -/
theorem ne_cons_folded {sign : Token} (hsign : sign.isWord = false) {tokens : List Token}
    (h : ∀ rest, tokens = sign :: rest → False) (rest : List Token) :
    foldedTokens tokens = sign :: rest → False := by
  intro hfolded
  obtain ⟨found, behind, rfl, hfound, -⟩ := List.map_eq_cons_iff.mp hfolded
  exact h behind (by rw [(Token.folded_eq_sign_iff hsign found).mp hfound])

/-! ## The rules -/

section Rules

variable {nested : Reader ValueType}

theorem readSequence_ignoresCase (hnested : IgnoresCase ValueType.folded nested) :
    IgnoresCase ValueType.folded (readSequence nested) := by
  intro tokens
  fun_cases readSequence nested tokens with
  | case1 rest =>
    refine inSmall_bind (hnested rest) ?_
    rintro ⟨element, rest⟩
    exact inSmall_bind (skipSign_folded rfl rest) fun _ => rfl
  | case2 _ hnone =>
    rw [readSequence.eq_2 nested _ (ne_cons_folded rfl hnone)]
    refine inSmall_bind (skipConnective_folded .of tokens) fun rest => ?_
    exact inSmall_bind (hnested rest) fun _ => rfl

theorem readPair_ignoresCase (hnested : IgnoresCase ValueType.folded nested) :
    IgnoresCase ValueType.folded (readPair nested) := by
  intro tokens
  fun_cases readPair nested tokens with
  | case1 rest =>
    refine inSmall_bind (hnested rest) ?_
    rintro ⟨first, rest⟩
    refine inSmall_bind (skipSign_folded rfl rest) fun rest => ?_
    refine inSmall_bind (hnested rest) ?_
    rintro ⟨second, rest⟩
    exact inSmall_bind (skipSign_folded rfl rest) fun _ => rfl
  | case2 _ hnone =>
    rw [readPair.eq_2 nested _ (ne_cons_folded rfl hnone)]
    refine inSmall_bind (skipConnective_folded .of tokens) fun rest => ?_
    refine inSmall_bind (hnested rest) ?_
    rintro ⟨first, rest⟩
    refine inSmall_bind (skipConnective_folded .and rest) fun rest => ?_
    exact inSmall_bind (hnested rest) fun _ => rfl

theorem readAngleComponents_ignoresCase (hnested : IgnoresCase ValueType.folded nested)
    (commas : Nat) : IgnoresCase ValueType.foldedAll (readAngleComponents nested commas) := by
  intro tokens
  fun_induction readAngleComponents nested commas tokens with
  | case1 commas rest ih =>
    refine inSmall_bind (hnested rest) ?_
    rintro ⟨component, rest⟩
    exact inSmall_bind (ih rest) fun _ => rfl
  | case2 bound tokens hnone =>
    rw [readAngleComponents.eq_2]
    · rfl
    · intro commas rest hbound
      exact ne_cons_folded rfl (fun rest => hnone commas rest hbound) rest

theorem readListedComponents_ignoresCase (hnested : IgnoresCase ValueType.folded nested)
    (commas : Nat) : IgnoresCase ValueType.foldedAll (readListedComponents nested commas) := by
  intro tokens
  fun_induction readListedComponents nested commas tokens with
  | case1 commas tokens rest hand =>
    rw [foldedTokens_sign rfl, readListedComponents, connective?_folded, hand]
    exact inSmall_bind (hnested rest) fun _ => rfl
  | case2 commas tokens hand ih =>
    rw [foldedTokens_sign rfl, readListedComponents, connective?_folded, hand]
    refine inSmall_bind (hnested tokens) ?_
    rintro ⟨component, rest⟩
    exact inSmall_bind (ih rest) fun _ => rfl
  | case3 bound tokens rest hand hnone =>
    rw [readListedComponents.eq_2, connective?_folded, hand]
    · exact inSmall_bind (hnested rest) fun _ => rfl
    · intro commas rest hbound
      exact ne_cons_folded rfl (fun rest => hnone commas rest hbound) rest
  | case4 bound tokens hnone hand =>
    rw [readListedComponents.eq_2, connective?_folded, hnone]
    · rfl
    · intro commas rest hbound
      exact ne_cons_folded rfl (fun rest => hand commas rest hbound) rest

/-- A loop that counts down the tokens counts as many of them in small letters. -/
theorem IgnoresCase.counted {α : Type} {small : α → α} {reader : Nat → Reader α}
    (h : ∀ commas, IgnoresCase small (reader commas)) :
    IgnoresCase small fun tokens => reader tokens.length tokens := by
  intro tokens
  -- the bound is the number of tokens, whatever their letters are
  have hlength : (foldedTokens tokens).length = tokens.length := List.length_map Token.folded
  simp only [hlength]
  exact h tokens.length tokens

theorem readComponents_ignoresCase (hnested : IgnoresCase ValueType.folded nested) :
    IgnoresCase ValueType.foldedAll (readComponents nested) := by
  have hangle := IgnoresCase.counted (readAngleComponents_ignoresCase hnested)
  have hlisted := IgnoresCase.counted (readListedComponents_ignoresCase hnested)
  intro tokens
  fun_cases readComponents nested tokens with
  | case1 rest =>
    refine inSmall_bind (hnested rest) ?_
    rintro ⟨first, rest⟩
    refine inSmall_bind (hangle rest) ?_
    rintro ⟨others, rest⟩
    exact inSmall_bind (skipSign_folded rfl rest) fun _ => rfl
  | case2 _ hnone =>
    rw [readComponents.eq_2 nested _ (ne_cons_folded rfl hnone)]
    refine inSmall_bind (skipConnective_folded .of tokens) fun rest => ?_
    refine inSmall_bind (hnested rest) ?_
    rintro ⟨first, rest⟩
    exact inSmall_bind (hlisted rest) fun _ => rfl

theorem readTuple_ignoresCase (hnested : IgnoresCase ValueType.folded nested) :
    IgnoresCase ValueType.folded (readTuple nested) := by
  intro tokens
  refine inSmall_bind (readComponents_ignoresCase hnested tokens) ?_
  rintro ⟨components, rest⟩
  -- whether there are two components or more does not depend on their names
  simp only [Prod.map_apply, ValueType.length_foldedAll]
  split <;> rfl

theorem readPrimary_ignoresCase (hnested : IgnoresCase ValueType.folded nested) :
    IgnoresCase ValueType.folded (readPrimary nested) := by
  intro tokens
  have hword : ∀ letters rest, foldedTokens (.word letters :: rest) =
      .word (Keyword.fold letters) :: foldedTokens rest := fun _ _ => rfl
  -- keywords, connectives and identifiers are told apart in the same way in small letters; only
  -- the name of a custom type and the word of a refusal are kept
  fun_cases readPrimary nested tokens with
  | case1 letters rest type hkeyword =>
    rw [hword, readPrimary, Keyword.ofWord?_fold, hkeyword]
    simp only [inSmall, Except.map, Except.mapError, Prod.map_apply,
      ValueType.folded_of_isScalar (Keyword.isScalar_of_ofWord? hkeyword)]
  | case2 letters rest hkeyword =>
    rw [hword, readPrimary, Keyword.ofWord?_fold, hkeyword]
    exact readSequence_ignoresCase hnested rest
  | case3 letters rest hkeyword =>
    rw [hword, readPrimary, Keyword.ofWord?_fold, hkeyword]
    exact readPair_ignoresCase hnested rest
  | case4 letters rest hkeyword =>
    rw [hword, readPrimary, Keyword.ofWord?_fold, hkeyword]
    exact readTuple_ignoresCase hnested rest
  | case5 letters rest hkeyword hconnective =>
    rw [hword, readPrimary, Keyword.ofWord?_fold, hkeyword, Keyword.isConnective_fold,
      if_pos hconnective]
    rfl
  | case6 letters rest hkeyword hconnective hidentifier =>
    rw [hword, readPrimary, Keyword.ofWord?_fold, hkeyword, Keyword.isConnective_fold,
      Keyword.isIdentifier_fold, if_neg hconnective, if_pos hidentifier]
    simp only [inSmall, Except.map, Except.mapError, Prod.map_apply, ValueType.folded,
      String.toList_ofList]
  | case7 letters rest hkeyword hconnective hidentifier =>
    rw [hword, readPrimary, Keyword.ofWord?_fold, hkeyword, Keyword.isConnective_fold,
      Keyword.isIdentifier_fold, if_neg hconnective, if_neg hidentifier]
    rfl
  | case8 _ hnone =>
    cases tokens with
    | nil => rfl
    | cons found rest =>
      cases found with
      | word letters => exact absurd rfl (hnone letters rest)
      | _ => rfl

end Rules

/-! ## The whole -/

theorem readSuffixes_ignoresCase (type : ValueType) (room : Nat) (tokens : List Token) :
    readSuffixes type.folded room (foldedTokens tokens) =
      inSmall (Prod.map ValueType.folded foldedTokens) (readSuffixes type room tokens) := by
  fun_induction readSuffixes type room tokens with
  | case1 type rest => rfl
  | case2 type rest room ih => exact ih
  | case3 type room tokens hnone =>
    rw [readSuffixes.eq_3 _ _ _ (ne_cons_folded rfl hnone)]
    rfl

/-- Reading a type, by induction on the levels. -/
theorem readType_ignoresCase : ∀ levels, IgnoresCase ValueType.folded (readType levels)
  | 0, _ => rfl
  | levels + 1, tokens => by
    refine inSmall_bind (readPrimary_ignoresCase (readType_ignoresCase levels) tokens) ?_
    rintro ⟨type, rest⟩
    exact readSuffixes_ignoresCase type levels rest

theorem ofTokens_folded (tokens : List Token) :
    ofTokens (foldedTokens tokens) = inSmall ValueType.folded (ofTokens tokens) := by
  rw [ofTokens, ofTokens, foldedTokens, List.isEmpty_map]
  split
  · rfl
  · refine inSmall_bind (readType_ignoresCase maxNesting tokens) ?_
    rintro ⟨type, rest⟩
    cases rest <;> rfl

/-! ## The scan -/

theorem completed_fold (letters : List Char) :
    Token.completed (Keyword.fold letters) = foldedTokens (Token.completed letters) := by
  rw [Token.completed, Token.completed, Keyword.fold, List.isEmpty_map]
  split
  · rfl
  · rw [← List.map_reverse]
    rfl

/-- A word that is completed, and the tokens behind it. -/
theorem completed_append_fold (letters : List Char) (tokens after : List Token) :
    Token.completed (Keyword.fold letters) ++ foldedTokens tokens ++ foldedTokens after =
      foldedTokens (Token.completed letters ++ tokens ++ after) := by
  rw [completed_fold]
  simp only [foldedTokens, List.map_append]

/-- A character that no word contains stays as it is. -/
theorem fold_cons {c : Char} (hc : Text.isNameChar c = false) (rest : List Char) :
    Keyword.fold (c :: rest) = c :: Keyword.fold rest := by
  rw [Keyword.fold, List.map_cons, Text.toLower_of_not_isNameChar hc]
  rfl

/-- Two signs that are no suffix are none in small letters. -/
theorem not_suffix_fold {c : Char} {rest : List Char}
    (h : ∀ behind, c = '[' → rest = ']' :: behind → False) (behind : List Char) :
    c = '[' → Keyword.fold rest = ']' :: behind → False := by
  intro hc hrest
  obtain ⟨e, behind', rfl, he, -⟩ := List.map_eq_cons_iff.mp hrest
  -- in small letters it is a bracket, so it is no letter and was a bracket before
  have hname : Text.isNameChar e = false := by
    rw [← Text.isNameChar_toLower, he]
    decide
  rw [Text.toLower_of_not_isNameChar hname] at he
  exact h behind' hc (by rw [he])

/-- No sign has a letter, and no character that is refused is one. -/
theorem ofMark_folded (c : Char) : Token.ofMark c = inSmall foldedTokens (Token.ofMark c) := by
  rw [Token.ofMark]
  repeat' split
  all_goals rfl

/-- The scan commutes with writing small letters, by induction on the scan. -/
theorem scanAfter_fold (letters text : List Char) :
    Token.scanAfter (Keyword.fold letters) (Keyword.fold text) =
      inSmall foldedTokens (Token.scanAfter letters text) := by
  induction letters, text using Token.scan_induction with
  | nil letters => exact congrArg Except.ok (completed_fold letters)
  | suffix letters rest ih =>
    have hcons : Keyword.fold ('[' :: ']' :: rest) = '[' :: ']' :: Keyword.fold rest := rfl
    rw [hcons, Token.scanAfter_suffix, Token.scanAfter_suffix]
    refine inSmall_bind ih fun after => congrArg Except.ok ?_
    exact completed_append_fold letters [.brackets] after
  | name letters c rest hname ih =>
    have hlower : Text.isNameChar c.toLower = true := by rw [Text.isNameChar_toLower, hname]
    have hcons : Keyword.fold (c :: rest) = c.toLower :: Keyword.fold rest := rfl
    rw [hcons, Token.scanAfter_name _ hlower, Token.scanAfter_name _ hname]
    exact ih
  | mark letters c rest hnot hname ih =>
    rw [fold_cons hname, Token.scanAfter_mark _ (not_suffix_fold hnot) hname,
      Token.scanAfter_mark _ hnot hname]
    refine inSmall_bind (ofMark_folded c) fun tokens => ?_
    refine inSmall_bind ih fun after => congrArg Except.ok ?_
    exact completed_append_fold letters tokens after

/-- **A text and its small letters.** They denote the same type in small letters, or they are
refused with the same error in small letters. -/
theorem parse_fold (text : List Char) :
    parse (Keyword.fold text) = inSmall ValueType.folded (parse text) :=
  inSmall_bind (scanAfter_fold [] text) ofTokens_folded

/-- The second character is the first one, or the same letter in another case. -/
def SameLetter (c d : Char) : Prop :=
  d = c ∨ d = c.toLower ∨ d = c.toUpper

instance : DecidableRel SameLetter := fun _ _ => inferInstanceAs (Decidable (_ ∨ _))

theorem fold_eq_of_sameLetter {s s' : List Char} (h : List.Forall₂ SameLetter s s') :
    Keyword.fold s = Keyword.fold s' := by
  induction h with
  | nil => rfl
  | @cons c d s s' hletter _ ih =>
    have hlower : d.toLower = c.toLower := by
      rcases hletter with rfl | rfl | rfl
      · rfl
      · exact Text.toLower_toLower c
      · exact Text.toLower_toUpper c
    rw [Keyword.fold, Keyword.fold, List.map_cons, List.map_cons, hlower]
    exact congrArg (c.toLower :: ·) ih

/-- Results that are the same in small letters are both answers, the same in small letters, or both
errors. -/
theorem answers_of_inSmall_eq {first second : Except TypeError ValueType}
    (h : inSmall ValueType.folded first = inSmall ValueType.folded second) :
    ((∃ type, first = .ok type) ↔ ∃ type, second = .ok type) ∧
      ∀ type type', first = .ok type → second = .ok type' → type.folded = type'.folded := by
  cases first with
  | error e =>
    cases second with
    | error e' => simp
    | ok type' => cases h
  | ok type =>
    cases second with
    | error e' => cases h
    | ok type' =>
      refine ⟨iff_of_true ⟨type, rfl⟩ ⟨type', rfl⟩, ?_⟩
      rintro _ _ ⟨⟩ ⟨⟩
      exact Except.ok.inj h

/-- **Letter case matters in custom names only.** Of two texts that differ in the case of letters
both are accepted or neither is, and the types they denote are the same up to the letter case of
their custom names. -/
theorem parse_of_sameLetter {s s' : List Char} (h : List.Forall₂ SameLetter s s') :
    ((∃ type, parse s = .ok type) ↔ ∃ type, parse s' = .ok type) ∧
      ∀ type type', parse s = .ok type → parse s' = .ok type' → type.folded = type'.folded := by
  apply answers_of_inSmall_eq
  calc inSmall ValueType.folded (parse s) = parse (Keyword.fold s) := (parse_fold s).symm
    _ = parse (Keyword.fold s') := by rw [fold_eq_of_sameLetter h]
    _ = inSmall ValueType.folded (parse s') := parse_fold s'

/-- A pair, written in mixed letter case with a name in two spellings. -/
theorem parse_of_sameLetter_mixed :
    List.Forall₂ SameLetter "Pair OF int AND TreeNode".toList "pair of INT and treeNODE".toList ∧
      parse "Pair OF int AND TreeNode".toList = .ok (.pair .integer (.custom "TreeNode")) ∧
      parse "pair of INT and treeNODE".toList = .ok (.pair .integer (.custom "treeNODE")) ∧
      ((∃ type, parse "Pair OF int AND TreeNode".toList = .ok type) ↔
        ∃ type, parse "pair of INT and treeNODE".toList = .ok type) ∧
      (ValueType.pair .integer (.custom "TreeNode")).folded =
        (ValueType.pair .integer (.custom "treeNODE")).folded := by
  have hsame : List.Forall₂ SameLetter "Pair OF int AND TreeNode".toList
      "pair of INT and treeNODE".toList := by decide
  have hfirst : parse "Pair OF int AND TreeNode".toList =
      .ok (.pair .integer (.custom "TreeNode")) := eq_ok_of_toOption (by decide +kernel)
  have hsecond : parse "pair of INT and treeNODE".toList =
      .ok (.pair .integer (.custom "treeNODE")) := eq_ok_of_toOption (by decide +kernel)
  obtain ⟨hiff, htypes⟩ := parse_of_sameLetter hsame
  exact ⟨hsame, hfirst, hsecond, hiff, htypes _ _ hfirst hsecond⟩

end TypeExpr

end StarterCode
