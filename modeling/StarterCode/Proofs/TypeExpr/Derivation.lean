import StarterCode.Proofs.Text.LetterCase
import StarterCode.Proofs.TypeExpr.Layout
import StarterCode.Proofs.TypeExpr.RoundTrip

/-!
# Texts and their derivations

A phrase is a derivation of the grammar, and a text is written by it when the text spells the
phrase's tokens, with any blanks between them. Two statements say which texts are accepted and what
they denote.

* Every accepted text is written by a phrase, and it denotes what the phrase denotes
  (`exists_phrase_spelled_of_parse`). Nothing is left over and nothing is made up.
* Every text that is written by an unambiguous phrase is accepted and denotes what the phrase
  denotes (`parse_of_spells`).

Nesting is bounded from outside in here, as it would be said of a text: a type that stands at some
depth may have as many suffixes as there are levels left. The reader counts from inside out, which
comes to the same (`Phrase.within_iff`).
-/

set_option autoImplicit false

namespace StarterCode

/-! ## The words of a phrase are words of the scan -/

namespace Keyword

/-- A word is a run of name characters if its small letters are. -/
theorem formed_of_fold_eq {word : List Char} {surface : String} (h : fold word = surface.toList)
    (hsurface : surface.toList ≠ [] ∧ surface.toList.all Text.isNameChar = true) :
    (Token.word word).Formed := by
  rw [← h] at hsurface
  obtain ⟨hne, hall⟩ := hsurface
  refine ⟨fun hnil => hne (by rw [hnil]; rfl), ?_⟩
  rw [fold, Text.all_isNameChar_map_toLower] at hall
  exact hall

theorem formed_of_ofWord? {word : List Char} {keyword : Keyword}
    (h : ofWord? word = some keyword) : (Token.word word).Formed := by
  have htable : ∀ entry ∈ surfaces,
      entry.1.toList ≠ [] ∧ entry.1.toList.all Text.isNameChar = true := by decide
  exact formed_of_fold_eq (String.toList_ofList).symm (htable _ (mem_of_ofWord? h))

theorem formed_of_matches {connective : Connective} {word : List Char}
    (h : connective.matches word = true) : (Token.word word).Formed := by
  refine formed_of_fold_eq (beq_iff_eq.mp h) ?_
  cases connective <;> decide

end Keyword

namespace TypeExpr

theorem formed_of_isTypeWord {letters : List Char} (h : IsTypeWord letters) :
    (Token.word letters).Formed := by
  rcases h with ⟨type, hscalar⟩ | ⟨hidentifier, -, -⟩
  · exact Keyword.formed_of_ofWord? hscalar
  · exact ⟨Text.ne_nil_of_isIdentifier hidentifier,
      List.all_eq_true.mpr (Text.all_isNameChar_of_isIdentifier hidentifier)⟩

mutual

/-- The tokens of a well spelled phrase are formed. -/
theorem Phrase.formed : ∀ phrase : Phrase, phrase.WellSpelled →
    ∀ token ∈ phrase.tokens, token.Formed
  | .word _, h => by
    rw [Phrase.tokens, List.forall_mem_singleton]
    exact formed_of_isTypeWord h
  | .sequenceOf _ _ element, ⟨hkeyword, hof, helement⟩ => by
    rw [Phrase.tokens, List.forall_mem_cons, List.forall_mem_cons]
    exact ⟨Keyword.formed_of_ofWord? hkeyword, Keyword.formed_of_matches hof,
      Phrase.formed element helement⟩
  | .sequenceIn _ element, ⟨hkeyword, helement⟩ => by
    rw [Phrase.tokens, List.forall_mem_cons, List.forall_mem_cons, List.forall_mem_append,
      List.forall_mem_singleton]
    exact ⟨Keyword.formed_of_ofWord? hkeyword, trivial, Phrase.formed element helement, trivial⟩
  | .pairOf _ _ first _ second, ⟨hkeyword, hof, hfirst, hand, hsecond⟩ => by
    rw [Phrase.tokens, List.forall_mem_cons, List.forall_mem_cons, List.forall_mem_append,
      List.forall_mem_cons]
    exact ⟨Keyword.formed_of_ofWord? hkeyword, Keyword.formed_of_matches hof,
      Phrase.formed first hfirst, Keyword.formed_of_matches hand, Phrase.formed second hsecond⟩
  | .pairIn _ first second, ⟨hkeyword, hfirst, hsecond⟩ => by
    rw [Phrase.tokens, List.forall_mem_cons, List.forall_mem_cons, List.forall_mem_append,
      List.forall_mem_cons, List.forall_mem_append, List.forall_mem_singleton]
    exact ⟨Keyword.formed_of_ofWord? hkeyword, trivial, Phrase.formed first hfirst, trivial,
      Phrase.formed second hsecond, trivial⟩
  | .tupleOf _ _ first others, ⟨hkeyword, hof, hfirst, hothers, _⟩ => by
    rw [Phrase.tokens, List.forall_mem_cons, List.forall_mem_cons, List.forall_mem_append]
    exact ⟨Keyword.formed_of_ofWord? hkeyword, Keyword.formed_of_matches hof,
      Phrase.formed first hfirst, Followers.formed others hothers⟩
  | .tupleIn _ first others, ⟨hkeyword, hfirst, hothers, _, _⟩ => by
    rw [Phrase.tokens, List.forall_mem_cons, List.forall_mem_cons, List.forall_mem_append,
      List.forall_mem_append, List.forall_mem_singleton]
    exact ⟨Keyword.formed_of_ofWord? hkeyword, trivial, Phrase.formed first hfirst,
      Followers.formed others hothers, trivial⟩
  | .suffixed inner, h => by
    rw [Phrase.tokens, List.forall_mem_append, List.forall_mem_singleton]
    exact ⟨Phrase.formed inner h, trivial⟩

/-- So are those of well spelled followers. -/
theorem Followers.formed : ∀ others : Followers, others.WellSpelled →
    ∀ token ∈ others.tokens, token.Formed
  | .none, _ => by
    rw [Followers.tokens]
    exact List.forall_mem_nil _
  | .next component others, ⟨hcomponent, hothers⟩ => by
    rw [Followers.tokens, List.forall_mem_cons, List.forall_mem_append]
    exact ⟨trivial, Phrase.formed component hcomponent, Followers.formed others hothers⟩
  | .last true _ component, ⟨hand, hcomponent⟩ => by
    rw [Followers.tokens, List.forall_mem_cons, List.forall_mem_cons]
    exact ⟨trivial, Keyword.formed_of_matches hand, Phrase.formed component hcomponent⟩
  | .last false _ component, ⟨hand, hcomponent⟩ => by
    rw [Followers.tokens, List.forall_mem_cons]
    exact ⟨Keyword.formed_of_matches hand, Phrase.formed component hcomponent⟩

end

/-! ## Nesting from outside in -/

mutual

/-- Each type in a phrase that stands at depth `depth` fits into `limit` levels: the depth at which
the type stands and the number of its suffixes make at most `limit`. What is inside a type stands
one level deeper. -/
def Phrase.Within (limit : Nat) : (depth : Nat) → Phrase → Prop
  | depth, .word _ => depth ≤ limit
  | depth, .sequenceOf _ _ element | depth, .sequenceIn _ element =>
    depth ≤ limit ∧ element.Within limit (depth + 1)
  | depth, .pairOf _ _ first _ second | depth, .pairIn _ first second =>
    depth ≤ limit ∧ first.Within limit (depth + 1) ∧ second.Within limit (depth + 1)
  | depth, .tupleOf _ _ first others | depth, .tupleIn _ first others =>
    depth ≤ limit ∧ first.Within limit (depth + 1) ∧ others.Within limit (depth + 1)
  | depth, .suffixed inner => depth + (Phrase.suffixed inner).suffixes ≤ limit ∧
    inner.Within limit depth

/-- Each type in followers that stand at depth `depth` fits into `limit` levels. -/
def Followers.Within (limit : Nat) : (depth : Nat) → Followers → Prop
  | _, .none => True
  | depth, .next component others => component.Within limit depth ∧ others.Within limit depth
  | depth, .last _ _ component => component.Within limit depth

end

mutual

/-- The levels counted from inside out are those that are left from outside in. -/
theorem Phrase.within_iff (limit : Nat) : ∀ (depth : Nat) (phrase : Phrase),
    phrase.Within limit depth ↔ depth + phrase.levels ≤ limit + 1
  | depth, .word _ => by
    rw [Phrase.Within, Phrase.levels]
    omega
  | depth, .sequenceOf _ _ element | depth, .sequenceIn _ element => by
    rw [Phrase.Within, Phrase.levels, Phrase.within_iff limit (depth + 1) element]
    omega
  | depth, .pairOf _ _ first _ second | depth, .pairIn _ first second => by
    rw [Phrase.Within, Phrase.levels, Phrase.within_iff limit (depth + 1) first,
      Phrase.within_iff limit (depth + 1) second]
    omega
  | depth, .tupleOf _ _ first others | depth, .tupleIn _ first others => by
    -- followers without a component fit in at any depth, so the depth of the tuple comes first
    have hfirst := first.levels_pos
    rw [Phrase.Within, Phrase.levels, Phrase.within_iff limit (depth + 1) first]
    by_cases hdepth : depth ≤ limit
    · rw [Followers.within_iff limit (depth + 1) others (Nat.succ_le_succ hdepth)]
      omega
    · omega
  | depth, .suffixed inner => by
    rw [Phrase.Within, Phrase.levels, Phrase.suffixes, Phrase.within_iff limit depth inner]
    omega

/-- The same for followers, at a depth that may be reached. -/
theorem Followers.within_iff (limit : Nat) : ∀ (depth : Nat) (others : Followers),
    depth ≤ limit + 1 → (others.Within limit depth ↔ depth + others.levels ≤ limit + 1)
  | _, .none, h => iff_of_true trivial h
  | depth, .next component others, h => by
    rw [Followers.Within, Followers.levels, Phrase.within_iff limit depth component,
      Followers.within_iff limit depth others h]
    omega
  | depth, .last _ _ component, _ => by
    rw [Followers.Within, Followers.levels, Phrase.within_iff limit depth component]

end

theorem Phrase.within_maxNesting_iff (phrase : Phrase) :
    phrase.Within maxNesting 1 ↔ phrase.levels ≤ maxNesting := by
  rw [Phrase.within_iff]
  omega

/-! ## Both directions -/

/-- **An accepted text is written by a phrase.** The text spells the tokens of a phrase, all of
them, and denotes the type of the phrase. The words of the phrase are those of the grammar, so the
type can be written; its suffixes stand behind something closed, and its types fit into the
levels. -/
theorem exists_phrase_spelled_of_parse {text : List Char} {type : ValueType}
    (h : parse text = .ok type) :
    ∃ phrase : Phrase, Token.scan text = .ok phrase.tokens ∧ Token.Spells text phrase.tokens ∧
      phrase.WellSpelled ∧ phrase.type = type ∧ type.Proper ∧
      phrase.Attached ∧ phrase.Within maxNesting 1 := by
  obtain ⟨phrase, hscan, hspell, hattached, htype, hlevels⟩ := exists_phrase_of_parse h
  have hspells := (Token.scan_eq_ok_iff.mp hscan).spells
  have hproper : type.Proper := htype ▸ phrase.proper_type hspell
  exact ⟨phrase, hscan, hspells, hspell, htype, hproper, hattached,
    phrase.within_maxNesting_iff.mpr hlevels⟩

/-- A list without a connective at its end, and a suffix behind angle brackets. -/
theorem exists_phrase_spelled_of_parse_listed :
    parse "Tuples OF list<Node>[], int, text".toList =
        .ok (.tuple [.array (.array (.custom "Node")), .integer, .string]) ∧
      ∃ phrase : Phrase,
        Token.scan "Tuples OF list<Node>[], int, text".toList = .ok phrase.tokens ∧
        Token.Spells "Tuples OF list<Node>[], int, text".toList phrase.tokens ∧
        phrase.WellSpelled ∧
        phrase.type = .tuple [.array (.array (.custom "Node")), .integer, .string] ∧
        (ValueType.tuple [.array (.array (.custom "Node")), .integer, .string]).Proper ∧
        phrase.Attached ∧ phrase.Within maxNesting 1 := by
  have hparse : parse "Tuples OF list<Node>[], int, text".toList =
      .ok (.tuple [.array (.array (.custom "Node")), .integer, .string]) :=
    eq_ok_of_toOption (by decide +kernel)
  exact ⟨hparse, exists_phrase_spelled_of_parse hparse⟩

/-- **An unambiguous phrase is understood however it is written.** A text that spells the tokens of
a well spelled phrase denotes the type of the phrase, as long as each suffix stands behind something
closed, each list behind `tuple of` is ended by a connective, and the types fit into the levels. -/
theorem parse_of_spells {text : List Char} {phrase : Phrase}
    (htext : Token.Spells text phrase.tokens) (hspell : phrase.WellSpelled)
    (hattached : phrase.Attached) (hterminated : phrase.Terminated)
    (hwithin : phrase.Within maxNesting 1) : parse text = .ok phrase.type := by
  have hscan : Token.scan text = .ok phrase.tokens :=
    Token.scan_eq_ok_iff.mpr ⟨htext, phrase.formed hspell⟩
  exact parse_of_scan hscan hspell hattached hterminated (phrase.within_maxNesting_iff.mp hwithin)

/-- A tuple of a suffixed name, a suffixed tuple of two components, and an array. -/
def mixedPhrase : Phrase :=
  .tupleOf "TUPLE".toList "of".toList (.suffixed (.word "Node".toList))
    (.next (.suffixed (.suffixed
        (.tupleIn "tuple".toList (.word "Int".toList) (.next (.word "STR".toList) .none))))
      (.last true "AND".toList
        (.sequenceOf "vectors".toList "Of".toList (.word "bools".toList))))

/-- The same tuple with blanks of several kinds, and none where none is needed. -/
theorem parse_of_spells_mixed :
    Token.Spells "TUPLE\tof Node [] ,tuple< Int,STR>[][] ,\nAND vectors\u00a0Of  bools ".toList
        mixedPhrase.tokens ∧
      mixedPhrase.WellSpelled ∧ mixedPhrase.Attached ∧ mixedPhrase.Terminated ∧
      mixedPhrase.Within maxNesting 1 ∧
      parse "TUPLE\tof Node [] ,tuple< Int,STR>[][] ,\nAND vectors\u00a0Of  bools ".toList =
        .ok (.tuple [.array (.custom "Node"), .array (.array (.pair .integer .string)),
          .array .boolean]) := by
  have hspells : Token.Spells
      "TUPLE\tof Node [] ,tuple< Int,STR>[][] ,\nAND vectors\u00a0Of  bools ".toList
      mixedPhrase.tokens :=
    (Token.scan_eq_ok_iff.mp (eq_ok_of_toOption (by decide +kernel))).spells
  have hspell : mixedPhrase.WellSpelled := by
    refine ⟨by decide, by decide, .inr ⟨by decide, by decide, by decide⟩, ⟨⟨by decide, .inl ?_, ?_⟩,
      by decide, by decide, by decide, .inl ?_⟩, by simp [Followers.types]⟩
    · exact ⟨.integer, by decide⟩
    · exact ⟨⟨.inl ⟨.string, by decide⟩, trivial⟩, by simp [Followers.types], rfl⟩
    · exact ⟨.boolean, by decide⟩
  have hattached : mixedPhrase.Attached :=
    ⟨⟨rfl, trivial⟩, ⟨rfl, rfl, trivial, trivial, trivial⟩, trivial⟩
  have hterminated : mixedPhrase.Terminated :=
    ⟨trivial, ⟨⟨trivial, trivial, trivial⟩, trivial⟩, rfl⟩
  have hwithin : mixedPhrase.Within maxNesting 1 :=
    mixedPhrase.within_maxNesting_iff.mpr (by decide)
  have htype : mixedPhrase.type = .tuple [.array (.custom "Node"),
      .array (.array (.pair .integer .string)), .array .boolean] := by decide
  exact ⟨hspells, hspell, hattached, hterminated, hwithin,
    htype ▸ parse_of_spells hspells hspell hattached hterminated hwithin⟩

end TypeExpr

end StarterCode
