import StarterCode.Proofs.TypeExpr.Completeness
import StarterCode.Proofs.TypeExpr.Nesting
import StarterCode.Proofs.TypeExpr.Scan
import StarterCode.Proofs.TypeExpr.Soundness

/-!
# The text of a type and its reading

`ValueType.text` writes every type, and reading that text gives the type back exactly when the type
can be written at all and is not too high.

The text is the text of one particular phrase, `canonical`, which spells with `of` and `and` only.
A list of three or more components is ended by `and`, so the phrase is unambiguous, and it is as
deep as the type is high. For the converse the reader's answer is a type that can be written, hence
its text has the tokens of its canonical phrase; there is no suffix among them, and without suffixes
the levels that the reader counts are the height.
-/

set_option autoImplicit false

namespace StarterCode.TypeExpr

/-! ## The canonical phrase -/

mutual

/-- The phrase that the text of a type is. -/
def canonical : ValueType → Phrase
  | .integer => .word "integer".toList
  | .float => .word "float".toList
  | .boolean => .word "boolean".toList
  | .string => .word "string".toList
  | .array element => .sequenceOf "array".toList "of".toList (canonical element)
  | .tuple [] => .word []
  | .tuple [first, second] =>
    .pairOf "pair".toList "of".toList (canonical first) "and".toList (canonical second)
  | .tuple (first :: others) =>
    .tupleOf "tuple".toList "of".toList (canonical first) (canonicalFollowers others)
  | .custom name => .word name.toList

/-- The followers that the text of the components behind the first one is. -/
def canonicalFollowers : List ValueType → Followers
  | [] => .none
  | [type] => .last false "and".toList (canonical type)
  | type :: types => .next (canonical type) (canonicalFollowers types)

end

/-- The phrase is unambiguous, denotes the type, is the text of the type, and holds no suffix. -/
structure Writes (phrase : Phrase) (type : ValueType) : Prop where
  wellSpelled : phrase.WellSpelled
  attached : phrase.Attached
  terminated : phrase.Terminated
  type_eq : phrase.type = type
  scan_eq : Token.scan type.text.toList = .ok phrase.tokens
  noSuffix : .brackets ∉ phrase.tokens

/-- The followers are unambiguous, denote the types, are the text behind the first component, and
hold no suffix. That text begins with a separator. -/
structure WritesFollowers (others : Followers) (types : List ValueType) : Prop where
  wellSpelled : others.WellSpelled
  attached : others.Attached
  terminated : others.Terminated
  endsWithAnd : others.endsWithAnd = true
  types_eq : others.types = types
  scan_eq : Token.scan (ValueType.followers types).toList = .ok others.tokens
  head_eq : ∃ c rest, (ValueType.followers types).toList = c :: rest ∧
    Text.isNameChar c = false ∧ c ≠ ']'
  noSuffix : .brackets ∉ others.tokens

/-- The tokens of two parts with a blank between them. -/
theorem scan_spaced {front rest : List Char} {before after : List Token}
    (hfront : Token.scan front = .ok before) (hrest : Token.scan rest = .ok after) :
    Token.scan (front ++ ' ' :: rest) = .ok (before ++ after) :=
  Token.scan_append (by decide) (by decide) hfront
    (by rw [Token.scan_cons_of_isBlank (by decide), hrest])

theorem Writes.scalar {word : String} {type : ValueType} (htext : type.text = word)
    (hword : Keyword.ofWord? word.toList = some (.scalar type))
    (hscan : Token.scan word.toList = .ok [.word word.toList]) :
    Writes (.word word.toList) type where
  wellSpelled := .inl ⟨type, hword⟩
  attached := trivial
  terminated := trivial
  type_eq := wordType_of_scalar hword
  scan_eq := by rw [htext, hscan, Phrase.tokens]
  noSuffix := by simp [Phrase.tokens]

theorem Writes.custom {name : String} (h : ValueType.IsName name.toList) :
    Writes (.word name.toList) (.custom name) where
  wellSpelled := .inr h
  attached := trivial
  terminated := trivial
  type_eq := by rw [Phrase.type, wordType_of_isName h, String.ofList_toList]
  scan_eq := by rw [ValueType.text, Token.scan_of_isIdentifier h.1, Phrase.tokens]
  noSuffix := by simp [Phrase.tokens]

theorem Writes.array {phrase : Phrase} {type : ValueType} (h : Writes phrase type) :
    Writes (.sequenceOf "array".toList "of".toList phrase) (.array type) where
  wellSpelled := ⟨by decide, by decide, h.wellSpelled⟩
  attached := h.attached
  terminated := h.terminated
  type_eq := by rw [Phrase.type, h.type_eq]
  scan_eq := by
    have hfront : Token.scan "array of".toList = .ok [.word "array".toList, .word "of".toList] :=
      rfl
    rw [ValueType.text, String.toList_append]
    exact scan_spaced hfront h.scan_eq
  noSuffix := by
    have := h.noSuffix
    simpa [Phrase.tokens] using this

theorem Writes.pair {phrase phrase' : Phrase} {first second : ValueType}
    (hfirst : Writes phrase first) (hsecond : Writes phrase' second) :
    Writes (.pairOf "pair".toList "of".toList phrase "and".toList phrase')
      (.tuple [first, second]) where
  wellSpelled := ⟨by decide, by decide, hfirst.wellSpelled, by decide, hsecond.wellSpelled⟩
  attached := ⟨hfirst.attached, hsecond.attached⟩
  terminated := ⟨hfirst.terminated, hsecond.terminated⟩
  type_eq := by rw [Phrase.type, hfirst.type_eq, hsecond.type_eq]
  scan_eq := by
    have hfront : Token.scan "pair of".toList = .ok [.word "pair".toList, .word "of".toList] :=
      rfl
    have hand : Token.scan "and".toList = .ok [.word "and".toList] := rfl
    rw [ValueType.text, String.toList_append, String.toList_append, String.toList_append,
      List.append_assoc, List.append_assoc]
    exact scan_spaced hfront (scan_spaced hfirst.scan_eq (scan_spaced hand hsecond.scan_eq))
  noSuffix := by
    have := hfirst.noSuffix
    have := hsecond.noSuffix
    simp_all [Phrase.tokens]

theorem Writes.tuple {phrase : Phrase} {others : Followers} {first second third : ValueType}
    {types : List ValueType} (hfirst : Writes phrase first)
    (hothers : WritesFollowers others (second :: third :: types)) :
    Writes (.tupleOf "tuple".toList "of".toList phrase others)
      (.tuple (first :: second :: third :: types)) where
  wellSpelled := ⟨by decide, by decide, hfirst.wellSpelled, hothers.wellSpelled, by
    rw [hothers.types_eq]
    exact List.cons_ne_nil _ _⟩
  attached := ⟨hfirst.attached, hothers.attached⟩
  terminated := ⟨hfirst.terminated, hothers.terminated, hothers.endsWithAnd⟩
  type_eq := by rw [Phrase.type, hfirst.type_eq, hothers.types_eq]
  scan_eq := by
    obtain ⟨c, rest, htext, hname, hbracket⟩ := hothers.head_eq
    have hscan := hothers.scan_eq
    rw [htext] at hscan
    have hboth := Token.scan_append hname hbracket hfirst.scan_eq hscan
    have hfront : Token.scan "tuple of".toList = .ok [.word "tuple".toList, .word "of".toList] :=
      rfl
    rw [ValueType.text.eq_9 _ _ (by simp) (by simp), String.toList_append, String.toList_append,
      htext, List.append_assoc]
    exact scan_spaced hfront hboth
  noSuffix := by
    have := hfirst.noSuffix
    have := hothers.noSuffix
    simp_all [Phrase.tokens]

theorem WritesFollowers.last {phrase : Phrase} {type : ValueType} (h : Writes phrase type) :
    WritesFollowers (.last false "and".toList phrase) [type] where
  wellSpelled := ⟨by decide, h.wellSpelled⟩
  attached := h.attached
  terminated := h.terminated
  endsWithAnd := rfl
  types_eq := by rw [Followers.types, h.type_eq]
  scan_eq := by
    have hand : Token.scan " and".toList = .ok [.word "and".toList] := rfl
    rw [ValueType.followers, String.toList_append]
    exact scan_spaced hand h.scan_eq
  head_eq := by
    rw [ValueType.followers, String.toList_append]
    exact ⟨' ', _, rfl, by decide, by decide⟩
  noSuffix := by
    have := h.noSuffix
    simpa [Followers.tokens] using this

theorem WritesFollowers.next {phrase : Phrase} {others : Followers} {type next : ValueType}
    {types : List ValueType} (h : Writes phrase type)
    (hothers : WritesFollowers others (next :: types)) :
    WritesFollowers (.next phrase others) (type :: next :: types) where
  wellSpelled := ⟨h.wellSpelled, hothers.wellSpelled⟩
  attached := ⟨h.attached, hothers.attached⟩
  terminated := ⟨h.terminated, hothers.terminated⟩
  endsWithAnd := hothers.endsWithAnd
  types_eq := by rw [Followers.types, h.type_eq, hothers.types_eq]
  scan_eq := by
    obtain ⟨c, rest, htext, hname, hbracket⟩ := hothers.head_eq
    have hscan := hothers.scan_eq
    rw [htext] at hscan
    have hboth := Token.scan_append hname hbracket h.scan_eq hscan
    rw [ValueType.followers.eq_3 _ _ (by simp), String.toList_append, String.toList_append, htext,
      List.append_assoc]
    have htokens : Token.scan (' ' :: (type.text.toList ++ c :: rest)) =
        .ok (phrase.tokens ++ others.tokens) := by
      rw [Token.scan_cons_of_isBlank (by decide), hboth]
    exact Token.scan_comma htokens
  head_eq := by
    rw [ValueType.followers.eq_3 _ _ (by simp), String.toList_append, String.toList_append,
      List.append_assoc]
    exact ⟨',', _, rfl, by decide, by decide⟩
  noSuffix := by
    have := h.noSuffix
    have := hothers.noSuffix
    simp_all [Followers.tokens]

mutual

/-- The canonical phrase of a type that can be written is its text. -/
theorem writes_canonical : ∀ type : ValueType, type.Proper → Writes (canonical type) type
  | .integer, _ | .float, _ | .boolean, _ | .string, _ => .scalar rfl (by decide) rfl
  | .custom _, h => .custom h
  | .array element, h => .array (writes_canonical element h)
  | .tuple [], h => absurd h.1 (by decide)
  | .tuple [_], h => absurd h.1 (Nat.lt_irrefl 1)
  | .tuple [first, second], ⟨_, hfirst, hsecond, _⟩ =>
    .pair (writes_canonical first hfirst) (writes_canonical second hsecond)
  | .tuple (first :: second :: third :: types), ⟨_, hfirst, hothers⟩ =>
    .tuple (writes_canonical first hfirst)
      (writesFollowers_canonical (second :: third :: types) hothers (List.cons_ne_nil _ _))

/-- So are the canonical followers of components that can be written. -/
theorem writesFollowers_canonical : ∀ types : List ValueType, ValueType.AllProper types →
    types ≠ [] → WritesFollowers (canonicalFollowers types) types
  | [], _, h => absurd rfl h
  | [type], ⟨h, _⟩, _ => .last (writes_canonical type h)
  | type :: next :: types, ⟨h, hothers⟩, _ =>
    .next (writes_canonical type h)
      (writesFollowers_canonical (next :: types) hothers (List.cons_ne_nil _ _))

end

/-! ## The round trip -/

/-- Tokens without a suffix have none behind an angle bracket. -/
theorem not_suffixBehindAngle {tokens : List Token} (h : .brackets ∉ tokens) :
    ¬ SuffixBehindAngle tokens := fun hbehind => h (hbehind.subset (by simp))

/-- The canonical phrase of a type has as many levels as the type is high. -/
theorem Writes.levels_eq_height {phrase : Phrase} {type : ValueType} (h : Writes phrase type) :
    phrase.levels = type.height := by
  rw [phrase.levels_eq_nesting h.attached (not_suffixBehindAngle h.noSuffix),
    ← phrase.height_type h.wellSpelled, h.type_eq]

/-- The text of a type that can be written and is not too high denotes the type. -/
theorem parse_text_of_proper {type : ValueType} (hproper : type.Proper)
    (hheight : type.height ≤ maxNesting) : parse type.text.toList = .ok type := by
  have h := writes_canonical type hproper
  have hlevels : (canonical type).levels ≤ maxNesting := h.levels_eq_height ▸ hheight
  have hparse := parse_of_scan h.scan_eq h.wellSpelled h.attached h.terminated hlevels
  rwa [h.type_eq] at hparse

/-- What a text is read as can be written. -/
theorem proper_of_parse {text : List Char} {type : ValueType} (h : parse text = .ok type) :
    type.Proper := by
  obtain ⟨phrase, -, hspell, -, htype, -⟩ := exists_phrase_of_parse h
  exact htype ▸ phrase.proper_type hspell

/-- A type whose text denotes the type is not too high. -/
theorem height_le_of_parse_text {type : ValueType} (h : parse type.text.toList = .ok type) :
    type.height ≤ maxNesting := by
  have hcanonical := writes_canonical type (proper_of_parse h)
  obtain ⟨phrase, hscan, hspell, hattached, htype, hlevels⟩ := exists_phrase_of_parse h
  -- the phrase that was found has the tokens of the canonical one, so no suffix is among them
  have htokens : phrase.tokens = (canonical type).tokens := by
    rw [hcanonical.scan_eq, Except.ok.injEq] at hscan
    exact hscan.symm
  have hnone : ¬ SuffixBehindAngle phrase.tokens :=
    htokens ▸ not_suffixBehindAngle hcanonical.noSuffix
  calc type.height = phrase.nesting := by rw [← htype, phrase.height_type hspell]
    _ = phrase.levels := (phrase.levels_eq_nesting hattached hnone).symm
    _ ≤ maxNesting := hlevels

/-- **The text of a type denotes the type exactly when the type can be written and is not too
high.** -/
theorem parse_text_eq_ok_iff (type : ValueType) :
    parse type.text.toList = .ok type ↔ type.Proper ∧ type.height ≤ maxNesting := by
  constructor
  · intro h
    exact ⟨proper_of_parse h, height_le_of_parse_text h⟩
  · rintro ⟨hproper, hheight⟩
    exact parse_text_of_proper hproper hheight

end StarterCode.TypeExpr
