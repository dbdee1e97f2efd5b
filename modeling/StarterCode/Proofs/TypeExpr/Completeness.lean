import StarterCode.Proofs.TypeExpr.Soundness

/-!
# What is read back

The grammar is ambiguous: in `pair of tuple of int, int and int` the `and` could end the tuple or
the pair. A phrase is unambiguous when each of its `tuple of` lists is ended by `and` and each of
its suffixes stands behind something closed. The tokens of such a phrase are read back as the
phrase, whatever comes behind them, a suffix apart.

A suffix behind the phrase is not out of the question everywhere. Behind a closed phrase it is read
as one more suffix of that phrase, and this is how suffixed phrases are read back themselves. So
the statement that goes through the induction, `Phrase.ReadBack`, does not ask for the end of the
suffixes: it says that the reader has come to the suffixes behind the phrase, with the room for them
that the phrase has left.
-/

set_option autoImplicit false

namespace StarterCode.TypeExpr

/-! ## Unambiguous phrases -/

/-- Whether the followers are ended by a connective. -/
def Followers.endsWithAnd : Followers → Bool
  | .none => false
  | .next _ others => others.endsWithAnd
  | .last _ _ _ => true

mutual

/-- Every list behind `tuple of` is ended by a connective. -/
def Phrase.Terminated : Phrase → Prop
  | .word _ => True
  | .sequenceOf _ _ element | .sequenceIn _ element | .suffixed element => element.Terminated
  | .pairOf _ _ first _ second | .pairIn _ first second => first.Terminated ∧ second.Terminated
  | .tupleOf _ _ first others =>
    first.Terminated ∧ others.Terminated ∧ others.endsWithAnd = true
  | .tupleIn _ first others => first.Terminated ∧ others.Terminated

/-- Every list behind `tuple of` in the followers is ended by a connective. -/
def Followers.Terminated : Followers → Prop
  | .none => True
  | .next component others => component.Terminated ∧ others.Terminated
  | .last _ _ component => component.Terminated

end

/-! ## Single tokens -/

@[simp] theorem skipSign_cons (token : Token) (rest : List Token) :
    skipSign token (token :: rest) = .ok rest := by
  simp [skipSign]

theorem connective?_of_matches {connective : Keyword.Connective} {letters : List Char}
    (h : connective.matches letters = true) (rest : List Token) :
    connective? connective (.word letters :: rest) = some rest := by
  simp [connective?, h]

theorem skipConnective_of_matches {connective : Keyword.Connective} {letters : List Char}
    (h : connective.matches letters = true) (rest : List Token) :
    skipConnective connective (.word letters :: rest) = .ok rest := by
  rw [skipConnective, connective?_of_matches h]

/-- A phrase does not begin with the connective of the last component. -/
theorem Phrase.connective?_tokens {phrase : Phrase} (h : phrase.WellSpelled)
    (rest : List Token) : connective? .and (phrase.tokens ++ rest) = none := by
  obtain ⟨letters, behind, htokens, hword⟩ := Phrase.tokens_eq_word _ h
  have hand := (Bool.or_eq_false_iff.mp hword).2
  rw [htokens, List.cons_append]
  simp [connective?, hand]

/-! ## One phrase -/

/-- Reading the tokens of the phrase leads to the suffixes behind it, with the room that is left for
them. -/
def Phrase.ReadBack (phrase : Phrase) : Prop :=
  ∀ levels rest, phrase.levels ≤ levels + 1 → phrase.closed = true ∨ NoSuffix rest →
    readType (levels + 1) (phrase.tokens ++ rest) =
      readSuffixes phrase.type (levels - phrase.suffixes) rest

theorem readSuffixes_of_noSuffix {type : ValueType} {room : Nat} {rest : List Token}
    (h : NoSuffix rest) : readSuffixes type room rest = .ok (type, rest) := by
  unfold readSuffixes
  split
  · exact absurd rfl h
  · rfl

theorem Phrase.levels_pos (phrase : Phrase) : 0 < phrase.levels := by
  cases phrase with
  | suffixed inner =>
    rw [levels]
    omega
  | _ => exact Nat.succ_pos _

/-- A phrase is read back where no suffix follows. -/
theorem Phrase.ReadBack.read {phrase : Phrase} (h : phrase.ReadBack) {levels : Nat}
    (rest : List Token) (hlevels : phrase.levels ≤ levels) (hrest : NoSuffix rest) :
    readType levels (phrase.tokens ++ rest) = .ok (phrase.type, rest) := by
  cases levels with
  | zero => exact absurd hlevels (Nat.not_le.mpr phrase.levels_pos)
  | succ levels => rw [h levels rest hlevels (.inr hrest), readSuffixes_of_noSuffix hrest]

/-- A phrase without suffixes is read back if it is read as a primary. -/
theorem Phrase.ReadBack.of_readPrimary {phrase : Phrase} (hsuffixes : phrase.suffixes = 0)
    (h : ∀ levels rest, phrase.levels ≤ levels + 1 → phrase.closed = true ∨ NoSuffix rest →
      readPrimary (readType levels) (phrase.tokens ++ rest) = .ok (phrase.type, rest)) :
    phrase.ReadBack := by
  intro levels rest hlevels hrest
  simp only [readType, h levels rest hlevels hrest, hsuffixes]
  rfl

theorem Phrase.ReadBack.word {letters : List Char} (h : IsTypeWord letters) :
    (Phrase.word letters).ReadBack := by
  refine .of_readPrimary rfl ?_
  intro levels rest _ _
  rw [Phrase.tokens, Phrase.type, List.cons_append, List.nil_append]
  rcases h with ⟨type, hscalar⟩ | hname
  · simp only [readPrimary, hscalar, wordType_of_scalar hscalar]
  · obtain ⟨hidentifier, hword, hconnective⟩ := hname
    simp [readPrimary, hword, hconnective, hidentifier, wordType]

theorem Phrase.ReadBack.suffixed {inner : Phrase} (hclosed : inner.closed = true)
    (h : inner.ReadBack) : (Phrase.suffixed inner).ReadBack := by
  intro levels rest hlevels _
  rw [Phrase.levels, Nat.max_le] at hlevels
  obtain ⟨hinner, hroom⟩ := hlevels
  -- the reader has room for this suffix: one of those that the inner phrase leaves
  have hleft : levels - inner.suffixes = levels - (inner.suffixes + 1) + 1 := by omega
  rw [Phrase.tokens, List.append_assoc, h levels _ hinner (.inl hclosed), hleft]
  rfl

section Composite

variable {keyword of and : List Char} {element first second : Phrase}

theorem Phrase.ReadBack.sequenceOf (hkeyword : Keyword.ofWord? keyword = some .sequence)
    (hof : Keyword.Connective.of.matches of = true) (h : element.ReadBack) :
    (Phrase.sequenceOf keyword of element).ReadBack := by
  refine .of_readPrimary rfl ?_
  intro levels rest hlevels hrest
  have hrest : NoSuffix rest := hrest.resolve_left Bool.false_ne_true
  have helement := h.read _ (Nat.le_of_succ_le_succ hlevels) hrest
  simp only [Phrase.tokens, List.cons_append, readPrimary, hkeyword, readSequence,
    skipConnective_of_matches hof, helement, bind, Except.bind]
  rfl

theorem Phrase.ReadBack.sequenceIn (hkeyword : Keyword.ofWord? keyword = some .sequence)
    (h : element.ReadBack) : (Phrase.sequenceIn keyword element).ReadBack := by
  refine .of_readPrimary rfl ?_
  intro levels rest hlevels _
  have helement := h.read (.rightAngle :: rest) (Nat.le_of_succ_le_succ hlevels)
    (by simp [NoSuffix])
  simp only [Phrase.tokens, List.cons_append, List.append_assoc, List.nil_append, readPrimary,
    hkeyword, readSequence, helement, bind, Except.bind, skipSign_cons]
  rfl

theorem Phrase.ReadBack.pairOf (hkeyword : Keyword.ofWord? keyword = some .pair)
    (hof : Keyword.Connective.of.matches of = true) (hfirst : first.ReadBack)
    (hand : Keyword.Connective.and.matches and = true) (hsecond : second.ReadBack) :
    (Phrase.pairOf keyword of first and second).ReadBack := by
  refine .of_readPrimary rfl ?_
  intro levels rest hlevels hrest
  have hrest : NoSuffix rest := hrest.resolve_left Bool.false_ne_true
  obtain ⟨hlevels₁, hlevels₂⟩ := Nat.max_le.mp (Nat.le_of_succ_le_succ hlevels)
  have hfirst := hfirst.read (.word and :: (second.tokens ++ rest)) hlevels₁
    (by simp [NoSuffix])
  have hsecond := hsecond.read _ hlevels₂ hrest
  simp only [Phrase.tokens, List.cons_append, List.append_assoc, readPrimary, hkeyword, readPair,
    skipConnective_of_matches hof, hfirst, skipConnective_of_matches hand, hsecond, bind,
    Except.bind]
  rfl

theorem Phrase.ReadBack.pairIn (hkeyword : Keyword.ofWord? keyword = some .pair)
    (hfirst : first.ReadBack) (hsecond : second.ReadBack) :
    (Phrase.pairIn keyword first second).ReadBack := by
  refine .of_readPrimary rfl ?_
  intro levels rest hlevels _
  obtain ⟨hlevels₁, hlevels₂⟩ := Nat.max_le.mp (Nat.le_of_succ_le_succ hlevels)
  have hfirst := hfirst.read (.comma :: (second.tokens ++ .rightAngle :: rest)) hlevels₁
    (by simp [NoSuffix])
  have hsecond := hsecond.read (.rightAngle :: rest) hlevels₂ (by simp [NoSuffix])
  simp only [Phrase.tokens, List.cons_append, List.append_assoc, List.nil_append, readPrimary,
    hkeyword, readPair, hfirst, hsecond, bind, Except.bind, skipSign_cons]
  rfl

end Composite

/-! ## Followers -/

/-- Behind a component that is followed by the end of an angle bracket, the followers are read back
between angle brackets. -/
def Followers.ReadBackIn (others : Followers) : Prop :=
  ∀ levels commas rest, others.levels ≤ levels → others.tokens.length ≤ commas →
    readAngleComponents (readType levels) commas (others.tokens ++ .rightAngle :: rest) =
      .ok (others.types, .rightAngle :: rest)

/-- Behind `tuple of` and a component, the followers are read back where no suffix follows. -/
def Followers.ReadBackOf (others : Followers) : Prop :=
  ∀ levels commas rest, others.levels ≤ levels → others.tokens.length ≤ commas → NoSuffix rest →
    readListedComponents (readType levels) commas (others.tokens ++ rest) = .ok (others.types, rest)

section Followers

variable {keyword of and : List Char} {component first : Phrase} {others : Followers}

/-- What follows a component is never a suffix. -/
theorem Followers.noSuffix_tokens (others : Followers) {rest : List Token} (h : NoSuffix rest) :
    NoSuffix (others.tokens ++ rest) := by
  cases others with
  | none => exact h
  | next component others => simp [Followers.tokens, NoSuffix]
  | last comma and component => cases comma <;> simp [Followers.tokens, NoSuffix]

theorem Followers.ReadBackIn.none : Followers.none.ReadBackIn := by
  intro levels commas rest _ _
  cases commas <;> rfl

theorem Followers.ReadBackIn.next (hcomponent : component.ReadBack) (hothers : others.ReadBackIn) :
    (Followers.next component others).ReadBackIn := by
  intro levels commas rest hlevels hcommas
  obtain ⟨hlevels₁, hlevels₂⟩ := Nat.max_le.mp hlevels
  simp only [Followers.tokens, List.length_cons, List.length_append] at hcommas
  obtain ⟨commas, rfl⟩ : ∃ n, commas = n + 1 := ⟨commas - 1, by omega⟩
  have hbehind : NoSuffix (others.tokens ++ .rightAngle :: rest) :=
    others.noSuffix_tokens (by simp [NoSuffix])
  have hcomponent := hcomponent.read _ hlevels₁ hbehind
  have hothers := hothers levels commas rest hlevels₂ (by omega)
  simp only [Followers.tokens, List.cons_append, List.append_assoc, readAngleComponents, hcomponent,
    hothers, bind, Except.bind]
  rfl

theorem Followers.ReadBackOf.next (hspell : component.WellSpelled)
    (hcomponent : component.ReadBack) (hothers : others.ReadBackOf) :
    (Followers.next component others).ReadBackOf := by
  intro levels commas rest hlevels hcommas hrest
  obtain ⟨hlevels₁, hlevels₂⟩ := Nat.max_le.mp hlevels
  simp only [Followers.tokens, List.length_cons, List.length_append] at hcommas
  obtain ⟨commas, rfl⟩ : ∃ n, commas = n + 1 := ⟨commas - 1, by omega⟩
  have hcomponent := hcomponent.read _ hlevels₁ (others.noSuffix_tokens hrest)
  have hothers := hothers levels commas rest hlevels₂ (by omega) hrest
  simp only [Followers.tokens, List.cons_append, List.append_assoc, readListedComponents,
    Phrase.connective?_tokens hspell, hcomponent, hothers, bind, Except.bind]
  rfl

theorem Followers.ReadBackOf.last (hand : Keyword.Connective.and.matches and = true)
    (hcomponent : component.ReadBack) (comma : Bool) :
    (Followers.last comma and component).ReadBackOf := by
  intro levels commas rest hlevels hcommas hrest
  have hcomponent := hcomponent.read _ hlevels hrest
  cases comma with
  | true =>
    simp only [Followers.tokens, List.length_cons] at hcommas
    obtain ⟨commas, rfl⟩ : ∃ n, commas = n + 1 := ⟨commas - 1, by omega⟩
    simp only [Followers.tokens, List.cons_append, readListedComponents,
      connective?_of_matches hand, hcomponent, bind, Except.bind]
    rfl
  | false =>
    simp only [Followers.tokens, List.cons_append, readListedComponents,
      connective?_of_matches hand, hcomponent, bind, Except.bind]
    rfl

theorem Phrase.ReadBack.tupleIn (hkeyword : Keyword.ofWord? keyword = some .tuple)
    (hfirst : first.ReadBack) (hothers : others.ReadBackIn) (hsome : others.types ≠ []) :
    (Phrase.tupleIn keyword first others).ReadBack := by
  refine .of_readPrimary rfl ?_
  intro levels rest hlevels _
  obtain ⟨hlevels₁, hlevels₂⟩ := Nat.max_le.mp (Nat.le_of_succ_le_succ hlevels)
  have hbehind : NoSuffix (others.tokens ++ .rightAngle :: rest) :=
    others.noSuffix_tokens (by simp [NoSuffix])
  have hfirst := hfirst.read _ hlevels₁ hbehind
  have hothers := hothers levels (others.tokens ++ .rightAngle :: rest).length rest hlevels₂
    (by simp)
  have hlength : ¬ (first.type :: others.types).length < 2 := by
    have := List.length_pos_iff.mpr hsome
    simp only [List.length_cons]
    omega
  simp only [Phrase.tokens, List.cons_append, List.append_assoc, List.nil_append, readPrimary,
    hkeyword, readTuple, readComponents, hfirst, hothers, bind, Except.bind, skipSign_cons, pure,
    Except.pure, if_neg hlength, Phrase.type]

theorem Phrase.ReadBack.tupleOf (hkeyword : Keyword.ofWord? keyword = some .tuple)
    (hof : Keyword.Connective.of.matches of = true) (hfirst : first.ReadBack)
    (hothers : others.ReadBackOf) (hsome : others.types ≠ []) :
    (Phrase.tupleOf keyword of first others).ReadBack := by
  refine .of_readPrimary rfl ?_
  intro levels rest hlevels hrest
  have hrest : NoSuffix rest := hrest.resolve_left Bool.false_ne_true
  obtain ⟨hlevels₁, hlevels₂⟩ := Nat.max_le.mp (Nat.le_of_succ_le_succ hlevels)
  have hfirst := hfirst.read _ hlevels₁ (others.noSuffix_tokens hrest)
  have hothers := hothers levels (others.tokens ++ rest).length rest hlevels₂ (by simp) hrest
  have hlength : ¬ (first.type :: others.types).length < 2 := by
    have := List.length_pos_iff.mpr hsome
    simp only [List.length_cons]
    omega
  simp only [Phrase.tokens, List.cons_append, List.append_assoc, readPrimary, hkeyword, readTuple,
    readComponents, skipConnective_of_matches hof, hfirst, hothers, bind, Except.bind, pure,
    Except.pure, if_neg hlength, Phrase.type]

end Followers

/-! ## All phrases -/

mutual

/-- **Unambiguous phrases are read back.** -/
theorem Phrase.readBack : ∀ (phrase : Phrase), phrase.WellSpelled → phrase.Attached →
    phrase.Terminated → phrase.ReadBack
  | .word _, hspell, _, _ => .word hspell
  | .sequenceOf _ _ element, hspell, hattached, hterminated =>
    .sequenceOf hspell.1 hspell.2.1
      (Phrase.readBack element hspell.2.2 hattached hterminated)
  | .sequenceIn _ element, hspell, hattached, hterminated =>
    .sequenceIn hspell.1 (Phrase.readBack element hspell.2 hattached hterminated)
  | .pairOf _ _ _ _ _, ⟨hkeyword, hof, hfirst, hand, hsecond⟩, hattached, hterminated =>
    .pairOf hkeyword hof (Phrase.readBack _ hfirst hattached.1 hterminated.1) hand
      (Phrase.readBack _ hsecond hattached.2 hterminated.2)
  | .pairIn _ _ _, ⟨hkeyword, hfirst, hsecond⟩, hattached, hterminated =>
    .pairIn hkeyword (Phrase.readBack _ hfirst hattached.1 hterminated.1)
      (Phrase.readBack _ hsecond hattached.2 hterminated.2)
  | .tupleOf _ _ _ _, ⟨hkeyword, hof, hfirst, hothers, hsome⟩, hattached,
      ⟨hterminated, hterminated', hend⟩ =>
    .tupleOf hkeyword hof (Phrase.readBack _ hfirst hattached.1 hterminated)
      (Followers.readBackOf _ hothers hattached.2 hterminated' hend) hsome
  | .tupleIn _ _ _, ⟨hkeyword, hfirst, hothers, hsome, hcommas⟩, hattached, hterminated =>
    .tupleIn hkeyword (Phrase.readBack _ hfirst hattached.1 hterminated.1)
      (Followers.readBackIn _ hothers hattached.2 hterminated.2 hcommas) hsome
  | .suffixed inner, hspell, hattached, hterminated =>
    .suffixed hattached.1 (Phrase.readBack inner hspell hattached.2 hterminated)

/-- Followers that a connective ends are read back behind `tuple of`. -/
theorem Followers.readBackOf : ∀ (others : Followers), others.WellSpelled → others.Attached →
    others.Terminated → others.endsWithAnd = true → others.ReadBackOf
  | .none, _, _, _, hend => absurd hend Bool.false_ne_true
  | .next _ _, hspell, hattached, hterminated, hend =>
    .next hspell.1 (Phrase.readBack _ hspell.1 hattached.1 hterminated.1)
      (Followers.readBackOf _ hspell.2 hattached.2 hterminated.2 hend)
  | .last comma _ component, hspell, hattached, hterminated, _ =>
    .last hspell.1 (Phrase.readBack component hspell.2 hattached hterminated) comma

/-- Followers with nothing but commas are read back between angle brackets. -/
theorem Followers.readBackIn : ∀ (others : Followers), others.WellSpelled → others.Attached →
    others.Terminated → others.onlyCommas = true → others.ReadBackIn
  | .none, _, _, _, _ => .none
  | .next _ _, hspell, hattached, hterminated, hcommas =>
    .next (Phrase.readBack _ hspell.1 hattached.1 hterminated.1)
      (Followers.readBackIn _ hspell.2 hattached.2 hterminated.2 hcommas)
  | .last _ _ _, _, _, _, hcommas => absurd hcommas Bool.false_ne_true

end

/-- A text whose tokens are those of an unambiguous phrase within the levels denotes the type of the
phrase. -/
theorem parse_of_scan {text : List Char} {phrase : Phrase}
    (hscan : Token.scan text = .ok phrase.tokens) (hspell : phrase.WellSpelled)
    (hattached : phrase.Attached) (hterminated : phrase.Terminated)
    (hlevels : phrase.levels ≤ maxNesting) : parse text = .ok phrase.type := by
  have hread := (Phrase.readBack _ hspell hattached hterminated).read [] hlevels
    (by simp [NoSuffix])
  obtain ⟨letters, rest, htokens, -⟩ := Phrase.tokens_eq_word _ hspell
  have hsome : phrase.tokens.isEmpty = false := by rw [htokens, List.isEmpty_cons]
  rw [List.append_nil] at hread
  simp only [parse, hscan, ofTokens, bind, Except.bind, hsome, hread]
  rfl

end StarterCode.TypeExpr
