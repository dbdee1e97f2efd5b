import StarterCode.TypeExpr.Parser

/-!
# The grammar of type expressions

A `Phrase` is a type expression taken apart: which rule of the grammar stands where, with the words
that were written for keywords and connectives. It knows the tokens it is made of and the type it
denotes, and nothing in it says how it was found, so it is the other side of every statement about
the reader: what the reader accepts is the tokens of some phrase (`Proofs.TypeExpr.Soundness`), and
the tokens of an unambiguous phrase are read as that phrase (`Proofs.TypeExpr.Completeness`).

There are two ways to measure how deep a phrase goes, and the difference between them matters.
`Phrase.levels` is what the reader counts: a suffix is counted from the level at which its type
stands, whatever that type holds. `Phrase.nesting` counts a suffix on top of the type it is put
behind, which is the height of the type that comes out.
-/

set_option autoImplicit false

namespace StarterCode

/-! ## Types that can be written -/

namespace ValueType

mutual

/-- The number of types inside each other, the type itself included. -/
def height : ValueType → Nat
  | .array element => element.height + 1
  | .tuple components => heightOfAll components + 1
  | _ => 1

/-- The greatest height in a list of types. -/
def heightOfAll : List ValueType → Nat
  | [] => 0
  | type :: types => max type.height (heightOfAll types)

end

/-- A word that names a custom type: an identifier that is neither keyword nor connective. -/
def IsName (letters : List Char) : Prop :=
  Text.isIdentifier letters = true ∧ Keyword.ofWord? letters = none ∧
    Keyword.isConnective letters = false

mutual

/-- Every tuple in the type has two components at least, and every custom name in it is one that an
expression can hold. -/
def Proper : ValueType → Prop
  | .array element => element.Proper
  | .tuple components => 2 ≤ components.length ∧ AllProper components
  | .custom name => IsName name.toList
  | _ => True

/-- Every type of the list is proper. -/
def AllProper : List ValueType → Prop
  | [] => True
  | type :: types => type.Proper ∧ AllProper types

end

/-- A type without parts has height one. -/
theorem height_of_isScalar {t : ValueType} (h : t.isScalar = true) : t.height = 1 := by
  cases t <;> simp [isScalar, height] at h ⊢

/-- A type without parts is proper. -/
theorem proper_of_isScalar {t : ValueType} (h : t.isScalar = true) : t.Proper := by
  cases t <;> simp [isScalar, Proper] at h ⊢

end ValueType

/-! ## Words -/

namespace Keyword

/-- The entry of the table that a keyword comes from. -/
theorem mem_of_ofWord? {word : List Char} {keyword : Keyword} (h : ofWord? word = some keyword) :
    (String.ofList (fold word), keyword) ∈ surfaces := by
  obtain ⟨before, after, htable, -⟩ := List.lookup_eq_some_iff.mp h
  rw [htable]
  exact List.mem_append_right _ List.mem_cons_self

/-- The scalar types of the table are scalar. -/
theorem isScalar_of_ofWord? {word : List Char} {type : ValueType}
    (h : ofWord? word = some (.scalar type)) : type.isScalar = true := by
  have htable : ∀ entry ∈ surfaces, entry.2 ∈ [.sequence, .pair, .tuple, .scalar .integer,
      .scalar .float, .scalar .boolean, .scalar .string] := by decide
  have hmem := htable _ (mem_of_ofWord? h)
  simp only [List.mem_cons, Keyword.scalar.injEq, reduceCtorEq, List.not_mem_nil, or_false,
    false_or] at hmem
  rcases hmem with rfl | rfl | rfl | rfl <;> rfl

/-- A keyword is no connective. -/
theorem isConnective_of_ofWord? {word : List Char} {keyword : Keyword}
    (h : ofWord? word = some keyword) : isConnective word = false := by
  have htable : ∀ entry ∈ surfaces, entry.1.toList ≠ Connective.of.word.toList ∧
      entry.1.toList ≠ Connective.and.word.toList := by decide
  obtain ⟨hof, hand⟩ := htable _ (mem_of_ofWord? h)
  rw [String.toList_ofList] at hof hand
  simp only [isConnective, Connective.matches, Bool.or_eq_false_iff, beq_eq_false_iff_ne]
  exact ⟨hof, hand⟩

end Keyword

namespace TypeExpr

/-- The type that a word denotes by itself. -/
def wordType (letters : List Char) : ValueType :=
  match Keyword.ofWord? letters with
  | some (.scalar type) => type
  | _ => .custom (String.ofList letters)

/-- A word that may stand for a type: it names a scalar type, or a custom one. -/
def IsTypeWord (letters : List Char) : Prop :=
  (∃ type, Keyword.ofWord? letters = some (.scalar type)) ∨ ValueType.IsName letters

theorem wordType_of_scalar {letters : List Char} {type : ValueType}
    (h : Keyword.ofWord? letters = some (.scalar type)) : wordType letters = type := by
  rw [wordType, h]

theorem wordType_of_isName {letters : List Char} (h : ValueType.IsName letters) :
    wordType letters = .custom (String.ofList letters) := by
  rw [wordType, h.2.1]

/-! ## Phrases -/

mutual

/-- A type expression taken apart as the grammar takes it apart. Keywords and connectives are given
by the words that stand for them. -/
inductive Phrase where
  /-- A word that denotes a type by itself. -/
  | word (letters : List Char)
  /-- `sequence "of" type`. -/
  | sequenceOf (keyword of : List Char) (element : Phrase)
  /-- `sequence "<" type ">"`. -/
  | sequenceIn (keyword : List Char) (element : Phrase)
  /-- `pair "of" type "and" type`. -/
  | pairOf (keyword of : List Char) (first : Phrase) (and : List Char) (second : Phrase)
  /-- `pair "<" type "," type ">"`. -/
  | pairIn (keyword : List Char) (first second : Phrase)
  /-- `tuple "of" type` with its followers. -/
  | tupleOf (keyword of : List Char) (first : Phrase) (others : Followers)
  /-- `tuple "<" type` with its followers and `">"`. -/
  | tupleIn (keyword : List Char) (first : Phrase) (others : Followers)
  /-- `type "[]"`. -/
  | suffixed (inner : Phrase)

/-- What stands behind the first component of a tuple. -/
inductive Followers where
  /-- Nothing more. -/
  | none
  /-- `"," type`, and what follows. -/
  | next (component : Phrase) (others : Followers)
  /-- `"and" type`, with a comma in front or without, which ends the list. -/
  | last (comma : Bool) (and : List Char) (component : Phrase)

end

/-! ## Tokens and type -/

mutual

/-- The tokens of a phrase. -/
def Phrase.tokens : Phrase → List Token
  | .word letters => [.word letters]
  | .sequenceOf keyword of element => .word keyword :: .word of :: element.tokens
  | .sequenceIn keyword element =>
    .word keyword :: .leftAngle :: (element.tokens ++ [.rightAngle])
  | .pairOf keyword of first and second =>
    .word keyword :: .word of :: (first.tokens ++ .word and :: second.tokens)
  | .pairIn keyword first second =>
    .word keyword :: .leftAngle :: (first.tokens ++ .comma :: (second.tokens ++ [.rightAngle]))
  | .tupleOf keyword of first others =>
    .word keyword :: .word of :: (first.tokens ++ others.tokens)
  | .tupleIn keyword first others =>
    .word keyword :: .leftAngle :: (first.tokens ++ (others.tokens ++ [.rightAngle]))
  | .suffixed inner => inner.tokens ++ [.brackets]

/-- The tokens of the followers. -/
def Followers.tokens : Followers → List Token
  | .none => []
  | .next component others => .comma :: (component.tokens ++ others.tokens)
  | .last true and component => .comma :: .word and :: component.tokens
  | .last false and component => .word and :: component.tokens

end

mutual

/-- The type that a phrase denotes. -/
def Phrase.type : Phrase → ValueType
  | .word letters => wordType letters
  | .sequenceOf _ _ element | .sequenceIn _ element | .suffixed element => .array element.type
  | .pairOf _ _ first _ second | .pairIn _ first second => .pair first.type second.type
  | .tupleOf _ _ first others | .tupleIn _ first others => .tuple (first.type :: others.types)

/-- The types that the followers denote. -/
def Followers.types : Followers → List ValueType
  | .none => []
  | .next component others => component.type :: others.types
  | .last _ _ component => [component.type]

end

/-! ## Which phrases there are -/

/-- Whether only commas separate the followers. -/
def Followers.onlyCommas : Followers → Bool
  | .none => true
  | .next _ others => others.onlyCommas
  | .last _ _ _ => false

mutual

/-- The words of the phrase are those that the grammar asks for, and each of its tuples has a second
component. Between angle brackets only commas separate. -/
def Phrase.WellSpelled : Phrase → Prop
  | .word letters => IsTypeWord letters
  | .sequenceOf keyword of element =>
    Keyword.ofWord? keyword = some .sequence ∧ Keyword.Connective.of.matches of = true ∧
      element.WellSpelled
  | .sequenceIn keyword element =>
    Keyword.ofWord? keyword = some .sequence ∧ element.WellSpelled
  | .pairOf keyword of first and second =>
    Keyword.ofWord? keyword = some .pair ∧ Keyword.Connective.of.matches of = true ∧
      first.WellSpelled ∧ Keyword.Connective.and.matches and = true ∧ second.WellSpelled
  | .pairIn keyword first second =>
    Keyword.ofWord? keyword = some .pair ∧ first.WellSpelled ∧ second.WellSpelled
  | .tupleOf keyword of first others =>
    Keyword.ofWord? keyword = some .tuple ∧ Keyword.Connective.of.matches of = true ∧
      first.WellSpelled ∧ others.WellSpelled ∧ others.types ≠ []
  | .tupleIn keyword first others =>
    Keyword.ofWord? keyword = some .tuple ∧ first.WellSpelled ∧ others.WellSpelled ∧
      others.types ≠ [] ∧ others.onlyCommas = true
  | .suffixed inner => inner.WellSpelled

/-- The followers are well spelled. -/
def Followers.WellSpelled : Followers → Prop
  | .none => True
  | .next component others => component.WellSpelled ∧ others.WellSpelled
  | .last _ and component =>
    Keyword.Connective.and.matches and = true ∧ component.WellSpelled

end

/-- Whether no suffix behind the phrase can belong to a part of it: it is a word, ends with an angle
bracket or has suffixes of its own. -/
def Phrase.closed : Phrase → Bool
  | .sequenceOf _ _ _ | .pairOf _ _ _ _ _ | .tupleOf _ _ _ _ => false
  | _ => true

mutual

/-- Every suffix in the phrase stands behind something closed. -/
def Phrase.Attached : Phrase → Prop
  | .word _ => True
  | .sequenceOf _ _ element | .sequenceIn _ element => element.Attached
  | .pairOf _ _ first _ second | .pairIn _ first second => first.Attached ∧ second.Attached
  | .tupleOf _ _ first others | .tupleIn _ first others => first.Attached ∧ others.Attached
  | .suffixed inner => inner.closed = true ∧ inner.Attached

/-- Every suffix in the followers stands behind something closed. -/
def Followers.Attached : Followers → Prop
  | .none => True
  | .next component others => component.Attached ∧ others.Attached
  | .last _ _ component => component.Attached

end

/-! ## Depth -/

/-- The number of suffixes at the end of the phrase. -/
def Phrase.suffixes : Phrase → Nat
  | .suffixed inner => inner.suffixes + 1
  | _ => 0

mutual

/-- The levels that the reader counts: one for the phrase itself on top of those inside it, and one
for each of its suffixes on top of that one level. -/
def Phrase.levels : Phrase → Nat
  | .word _ => 1
  | .sequenceOf _ _ element | .sequenceIn _ element => element.levels + 1
  | .pairOf _ _ first _ second | .pairIn _ first second => max first.levels second.levels + 1
  | .tupleOf _ _ first others | .tupleIn _ first others => max first.levels others.levels + 1
  | .suffixed inner => max inner.levels (inner.suffixes + 2)

/-- The greatest number of levels among the followers. -/
def Followers.levels : Followers → Nat
  | .none => 0
  | .next component others => max component.levels others.levels
  | .last _ _ component => component.levels

end

mutual

/-- The depth of the phrase with each suffix on top of all that stands before it. -/
def Phrase.nesting : Phrase → Nat
  | .word _ => 1
  | .sequenceOf _ _ element | .sequenceIn _ element | .suffixed element => element.nesting + 1
  | .pairOf _ _ first _ second | .pairIn _ first second => max first.nesting second.nesting + 1
  | .tupleOf _ _ first others | .tupleIn _ first others => max first.nesting others.nesting + 1

/-- The greatest depth among the followers. -/
def Followers.nesting : Followers → Nat
  | .none => 0
  | .next component others => max component.nesting others.nesting
  | .last _ _ component => component.nesting

end

/-! ## What a phrase denotes -/

theorem isScalar_or_isName {letters : List Char} (h : IsTypeWord letters) :
    (wordType letters).isScalar = true ∨
      wordType letters = .custom (String.ofList letters) ∧ ValueType.IsName letters := by
  rcases h with ⟨type, htype⟩ | hname
  · rw [wordType_of_scalar htype]
    exact .inl (Keyword.isScalar_of_ofWord? htype)
  · exact .inr ⟨wordType_of_isName hname, hname⟩

theorem height_wordType {letters : List Char} (h : IsTypeWord letters) :
    (wordType letters).height = 1 := by
  rcases isScalar_or_isName h with hscalar | ⟨hcustom, -⟩
  · exact ValueType.height_of_isScalar hscalar
  · rw [hcustom]
    rfl

theorem proper_wordType {letters : List Char} (h : IsTypeWord letters) :
    (wordType letters).Proper := by
  rcases isScalar_or_isName h with hscalar | ⟨hcustom, hname⟩
  · exact ValueType.proper_of_isScalar hscalar
  · rw [hcustom, ValueType.Proper, String.toList_ofList]
    exact hname

mutual

/-- The type of a phrase is as high as the phrase is deep. -/
theorem Phrase.height_type : ∀ (phrase : Phrase), phrase.WellSpelled →
    phrase.type.height = phrase.nesting
  | .word _, h => height_wordType h
  | .sequenceOf _ _ _, h => by
    rw [Phrase.type, ValueType.height, Phrase.nesting, Phrase.height_type _ h.2.2]
  | .sequenceIn _ _, h => by
    rw [Phrase.type, ValueType.height, Phrase.nesting, Phrase.height_type _ h.2]
  | .pairOf _ _ _ _ _, ⟨_, _, hfirst, _, hsecond⟩ | .pairIn _ _ _, ⟨_, hfirst, hsecond⟩ => by
    rw [Phrase.type, ValueType.height, Phrase.nesting, ValueType.heightOfAll,
      ValueType.heightOfAll, ValueType.heightOfAll, Nat.max_zero, Phrase.height_type _ hfirst,
      Phrase.height_type _ hsecond]
  | .tupleOf _ _ _ _, ⟨_, _, hfirst, hothers, _⟩ | .tupleIn _ _ _, ⟨_, hfirst, hothers, _, _⟩ => by
    rw [Phrase.type, ValueType.height, Phrase.nesting, ValueType.heightOfAll,
      Phrase.height_type _ hfirst, Followers.heightOfAll_types _ hothers]
  | .suffixed inner, h => by
    rw [Phrase.type, ValueType.height, Phrase.nesting, Phrase.height_type inner h]

/-- The greatest height among the types of the followers is their depth. -/
theorem Followers.heightOfAll_types : ∀ (others : Followers), others.WellSpelled →
    ValueType.heightOfAll others.types = others.nesting
  | .none, _ => rfl
  | .next _ _, h => by
    rw [Followers.types, ValueType.heightOfAll, Followers.nesting, Phrase.height_type _ h.1,
      Followers.heightOfAll_types _ h.2]
  | .last _ _ _, h => by
    rw [Followers.types, ValueType.heightOfAll, Followers.nesting, ValueType.heightOfAll,
      Nat.max_zero, Phrase.height_type _ h.2]

end

mutual

/-- A well spelled phrase denotes a proper type. -/
theorem Phrase.proper_type : ∀ (phrase : Phrase), phrase.WellSpelled → phrase.type.Proper
  | .word _, h => proper_wordType h
  | .sequenceOf _ _ element, h => Phrase.proper_type element h.2.2
  | .sequenceIn _ element, h => Phrase.proper_type element h.2
  | .pairOf _ _ _ _ _, ⟨_, _, hfirst, _, hsecond⟩ | .pairIn _ _ _, ⟨_, hfirst, hsecond⟩ =>
    ⟨Nat.le_refl 2, Phrase.proper_type _ hfirst, Phrase.proper_type _ hsecond, trivial⟩
  | .tupleOf _ _ _ _, ⟨_, _, hfirst, hothers, hsome⟩
  | .tupleIn _ _ _, ⟨_, hfirst, hothers, hsome, _⟩ =>
    ⟨Nat.succ_le_succ (List.length_pos_iff.mpr hsome), Phrase.proper_type _ hfirst,
      Followers.allProper_types _ hothers⟩
  | .suffixed inner, h => Phrase.proper_type inner h

/-- Well spelled followers denote proper types. -/
theorem Followers.allProper_types : ∀ (others : Followers), others.WellSpelled →
    ValueType.AllProper others.types
  | .none, _ => trivial
  | .next _ _, h => ⟨Phrase.proper_type _ h.1, Followers.allProper_types _ h.2⟩
  | .last _ _ _, h => ⟨Phrase.proper_type _ h.2, trivial⟩

end

/-- A phrase begins with a word that is no connective. -/
theorem Phrase.tokens_eq_word : ∀ (phrase : Phrase), phrase.WellSpelled →
    ∃ letters rest, phrase.tokens = .word letters :: rest ∧ Keyword.isConnective letters = false
  | .word letters, h => by
    rcases h with ⟨_, hscalar⟩ | hname
    · exact ⟨letters, [], rfl, Keyword.isConnective_of_ofWord? hscalar⟩
    · exact ⟨letters, [], rfl, hname.2.2⟩
  | .sequenceOf _ _ _, h | .sequenceIn _ _, h | .pairOf _ _ _ _ _, h | .pairIn _ _ _, h
  | .tupleOf _ _ _ _, h | .tupleIn _ _ _, h =>
    ⟨_, _, rfl, Keyword.isConnective_of_ofWord? h.1⟩
  | .suffixed inner, h => by
    obtain ⟨letters, rest, htokens, hword⟩ := Phrase.tokens_eq_word inner h
    exact ⟨letters, rest ++ [.brackets], by rw [Phrase.tokens, htokens, List.cons_append], hword⟩

end TypeExpr

end StarterCode
