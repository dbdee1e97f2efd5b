import StarterCode.Proofs.Result
import StarterCode.Proofs.TypeExpr.Grammar

/-!
# What the reader accepts

Every answer of the reader comes from a phrase: the tokens it has used up are those of the phrase,
the type is the one the phrase denotes, and the phrase stays within the levels that were given.

The rules of the grammar are written over a reader `nested` for the types inside, so each is taken
by itself: if the answers of `nested` come from phrases of at most `levels` levels, then those of
the rule come from phrases of at most one more. The tie between the rules is then one induction on
the number of levels.

What a reader leaves over never begins with a suffix, since the suffixes are read last and as far as
they go. A rule that ends with a type therefore leaves no suffix for the phrase round it, and that
is why every suffix of the phrase stands behind something closed.
-/

set_option autoImplicit false

namespace StarterCode.TypeExpr

/-! ## Single tokens -/

theorem skipSign_eq_ok {token : Token} {tokens rest : List Token}
    (h : skipSign token tokens = .ok rest) : tokens = token :: rest := by
  unfold skipSign at h
  split at h
  · split at h
    · next heq =>
      rw [Except.ok.injEq] at h
      rw [heq, h]
    · simp [refuse] at h
  · simp [refuse] at h

theorem connective?_eq_some {connective : Keyword.Connective} {tokens rest : List Token}
    (h : connective? connective tokens = some rest) :
    ∃ letters, connective.matches letters = true ∧ tokens = .word letters :: rest := by
  unfold connective? at h
  split at h
  · next letters _ =>
    split at h
    · next hmatches =>
      rw [Option.some.injEq] at h
      exact ⟨letters, hmatches, by rw [h]⟩
    · simp at h
  · simp at h

theorem skipConnective_eq_ok {connective : Keyword.Connective} {tokens rest : List Token}
    (h : skipConnective connective tokens = .ok rest) :
    ∃ letters, connective.matches letters = true ∧ tokens = .word letters :: rest := by
  unfold skipConnective at h
  split at h
  · next hfound =>
    rw [Except.ok.injEq] at h
    exact connective?_eq_some (h ▸ hfound)
  · unfold refuse at h
    split at h <;> simp at h

/-! ## Phrases behind answers -/

/-- Whether the tokens do not begin with a suffix. -/
def NoSuffix (tokens : List Token) : Prop :=
  tokens.head? ≠ some .brackets

/-- The tokens are those of a phrase for the type, with the rest behind them. The phrase keeps to
the levels, and no suffix is left over that could belong to it. -/
structure Reading (phrase : Phrase) (levels : Nat) (tokens : List Token) (type : ValueType)
    (rest : List Token) : Prop where
  /-- The words of the phrase are in order. -/
  wellSpelled : phrase.WellSpelled
  /-- Its suffixes are, too. -/
  attached : phrase.Attached
  /-- It keeps to the levels. -/
  levels_le : phrase.levels ≤ levels
  /-- It denotes the type. -/
  type_eq : phrase.type = type
  /-- Its tokens come first. -/
  tokens_eq : tokens = phrase.tokens ++ rest
  /-- A suffix behind it does not belong to a part of it. -/
  closed : phrase.closed = true ∨ NoSuffix rest

/-- All answers of the reader come from phrases of at most so many levels, with no suffix behind
them. -/
def Sound (levels : Nat) (reader : Reader ValueType) : Prop :=
  ∀ {tokens type rest}, reader tokens = .ok (type, rest) →
    NoSuffix rest ∧ ∃ phrase, Reading phrase levels tokens type rest

section Rules

variable {levels : Nat} {nested : Reader ValueType} {tokens rest : List Token} {type : ValueType}
  {keyword : List Char}

/-! ## The rules -/

theorem readSequence_sound (hnested : Sound levels nested)
    (hkeyword : Keyword.ofWord? keyword = some .sequence)
    (h : readSequence nested tokens = .ok (type, rest)) :
    ∃ phrase, phrase.suffixes = 0 ∧
      Reading phrase (levels + 1) (.word keyword :: tokens) type rest := by
  unfold readSequence at h
  split at h
  · obtain ⟨⟨element, rest₁⟩, helement, h⟩ := bind_eq_ok.mp h
    obtain ⟨rest₂, hsign, h⟩ := bind_eq_ok.mp h
    cases h
    obtain ⟨-, phrase, hphrase⟩ := hnested helement
    refine ⟨.sequenceIn keyword phrase, rfl, ⟨hkeyword, hphrase.wellSpelled⟩, hphrase.attached,
      Nat.succ_le_succ hphrase.levels_le, ?_, ?_, .inl rfl⟩
    · rw [Phrase.type, hphrase.type_eq]
    · rw [hphrase.tokens_eq, skipSign_eq_ok hsign]
      simp [Phrase.tokens]
  · obtain ⟨rest₁, hof, h⟩ := bind_eq_ok.mp h
    obtain ⟨⟨element, rest₂⟩, helement, h⟩ := bind_eq_ok.mp h
    cases h
    obtain ⟨of, hmatches, htokens⟩ := skipConnective_eq_ok hof
    obtain ⟨hrest, phrase, hphrase⟩ := hnested helement
    refine ⟨.sequenceOf keyword of phrase, rfl, ⟨hkeyword, hmatches, hphrase.wellSpelled⟩,
      hphrase.attached, Nat.succ_le_succ hphrase.levels_le, ?_, ?_, .inr hrest⟩
    · rw [Phrase.type, hphrase.type_eq]
    · rw [htokens, hphrase.tokens_eq]
      rfl

theorem readPair_sound (hnested : Sound levels nested)
    (hkeyword : Keyword.ofWord? keyword = some .pair)
    (h : readPair nested tokens = .ok (type, rest)) :
    ∃ phrase, phrase.suffixes = 0 ∧
      Reading phrase (levels + 1) (.word keyword :: tokens) type rest := by
  unfold readPair at h
  split at h
  · obtain ⟨⟨first, rest₁⟩, hfirst, h⟩ := bind_eq_ok.mp h
    obtain ⟨rest₂, hcomma, h⟩ := bind_eq_ok.mp h
    obtain ⟨⟨second, rest₃⟩, hsecond, h⟩ := bind_eq_ok.mp h
    obtain ⟨rest₄, hsign, h⟩ := bind_eq_ok.mp h
    cases h
    obtain ⟨-, phrase, hphrase⟩ := hnested hfirst
    obtain ⟨-, phrase', hphrase'⟩ := hnested hsecond
    refine ⟨.pairIn keyword phrase phrase', rfl,
      ⟨hkeyword, hphrase.wellSpelled, hphrase'.wellSpelled⟩,
      ⟨hphrase.attached, hphrase'.attached⟩,
      Nat.succ_le_succ (Nat.max_le.mpr ⟨hphrase.levels_le, hphrase'.levels_le⟩), ?_, ?_, .inl rfl⟩
    · rw [Phrase.type, hphrase.type_eq, hphrase'.type_eq]
    · rw [hphrase.tokens_eq, skipSign_eq_ok hcomma, hphrase'.tokens_eq, skipSign_eq_ok hsign]
      simp [Phrase.tokens]
  · obtain ⟨rest₁, hof, h⟩ := bind_eq_ok.mp h
    obtain ⟨⟨first, rest₂⟩, hfirst, h⟩ := bind_eq_ok.mp h
    obtain ⟨rest₃, hand, h⟩ := bind_eq_ok.mp h
    obtain ⟨⟨second, rest₄⟩, hsecond, h⟩ := bind_eq_ok.mp h
    cases h
    obtain ⟨of, hmatches, htokens⟩ := skipConnective_eq_ok hof
    obtain ⟨and, hmatches', htokens'⟩ := skipConnective_eq_ok hand
    obtain ⟨-, phrase, hphrase⟩ := hnested hfirst
    obtain ⟨hrest, phrase', hphrase'⟩ := hnested hsecond
    refine ⟨.pairOf keyword of phrase and phrase', rfl,
      ⟨hkeyword, hmatches, hphrase.wellSpelled, hmatches', hphrase'.wellSpelled⟩,
      ⟨hphrase.attached, hphrase'.attached⟩,
      Nat.succ_le_succ (Nat.max_le.mpr ⟨hphrase.levels_le, hphrase'.levels_le⟩), ?_, ?_,
      .inr hrest⟩
    · rw [Phrase.type, hphrase.type_eq, hphrase'.type_eq]
    · rw [htokens, hphrase.tokens_eq, htokens', hphrase'.tokens_eq]
      simp [Phrase.tokens]

/-- The tokens are those of followers for the types, with the rest behind them. -/
structure FollowersReading (others : Followers) (levels : Nat) (tokens : List Token)
    (types : List ValueType) (rest : List Token) : Prop where
  /-- The words of the followers are in order. -/
  wellSpelled : others.WellSpelled
  /-- Their suffixes are, too. -/
  attached : others.Attached
  /-- They keep to the levels. -/
  levels_le : others.levels ≤ levels
  /-- They denote the types. -/
  types_eq : others.types = types
  /-- Their tokens come first. -/
  tokens_eq : tokens = others.tokens ++ rest
  /-- No suffix is left over behind them. -/
  noSuffix : NoSuffix tokens → NoSuffix rest

/-- Where no follower is read there is none. -/
theorem FollowersReading.none : FollowersReading .none levels tokens [] tokens :=
  ⟨trivial, trivial, Nat.zero_le _, rfl, rfl, id⟩

/-- A component behind a comma in front of followers. -/
theorem FollowersReading.next {component : Phrase} {others : Followers} {rest₁ : List Token}
    {types : List ValueType} (hcomponent : Reading component levels tokens type rest₁)
    (hrest : NoSuffix rest₁) (hothers : FollowersReading others levels rest₁ types rest) :
    FollowersReading (.next component others) levels (.comma :: tokens) (type :: types) rest where
  wellSpelled := ⟨hcomponent.wellSpelled, hothers.wellSpelled⟩
  attached := ⟨hcomponent.attached, hothers.attached⟩
  levels_le := Nat.max_le.mpr ⟨hcomponent.levels_le, hothers.levels_le⟩
  types_eq := by rw [Followers.types, hcomponent.type_eq, hothers.types_eq]
  tokens_eq := by
    rw [hcomponent.tokens_eq, hothers.tokens_eq, Followers.tokens]
    simp
  noSuffix := fun _ => hothers.noSuffix hrest

/-- The last component behind its connective, with a comma in front or without. -/
theorem FollowersReading.last {component : Phrase} {and : List Char}
    (hand : Keyword.Connective.and.matches and = true)
    (hcomponent : Reading component levels tokens type rest) (hrest : NoSuffix rest) :
    FollowersReading (.last true and component) levels (.comma :: .word and :: tokens) [type] rest ∧
      FollowersReading (.last false and component) levels (.word and :: tokens) [type] rest := by
  constructor
  all_goals
    refine ⟨⟨hand, hcomponent.wellSpelled⟩, hcomponent.attached, hcomponent.levels_le, ?_, ?_,
      fun _ => hrest⟩
    · rw [Followers.types, hcomponent.type_eq]
    · rw [hcomponent.tokens_eq]
      rfl

theorem readAngleComponents_sound (hnested : Sound levels nested) {commas : Nat}
    {types : List ValueType} (h : readAngleComponents nested commas tokens = .ok (types, rest)) :
    ∃ others, others.onlyCommas = true ∧ FollowersReading others levels tokens types rest := by
  fun_induction readAngleComponents nested commas tokens generalizing types with
  | case1 commas tokens ih =>
    obtain ⟨⟨component, rest₁⟩, hread, h⟩ := bind_eq_ok.mp h
    obtain ⟨⟨components, rest₂⟩, hothers, h⟩ := bind_eq_ok.mp h
    cases h
    obtain ⟨hrest, phrase, hphrase⟩ := hnested hread
    obtain ⟨others, hcommas, hothers⟩ := ih _ hothers
    exact ⟨.next phrase others, hcommas, .next hphrase hrest hothers⟩
  | case2 bound tokens hnone =>
    cases h
    exact ⟨.none, rfl, .none⟩

theorem readListedComponents_sound (hnested : Sound levels nested) {commas : Nat}
    {types : List ValueType} (h : readListedComponents nested commas tokens = .ok (types, rest)) :
    ∃ others, FollowersReading others levels tokens types rest := by
  fun_induction readListedComponents nested commas tokens generalizing types with
  | case1 commas tokens rest₁ hand =>
    obtain ⟨⟨component, rest₂⟩, hread, h⟩ := bind_eq_ok.mp h
    cases h
    obtain ⟨and, hmatches, rfl⟩ := connective?_eq_some hand
    obtain ⟨hrest, phrase, hphrase⟩ := hnested hread
    exact ⟨.last true and phrase, (FollowersReading.last hmatches hphrase hrest).1⟩
  | case2 commas tokens hand ih =>
    obtain ⟨⟨component, rest₁⟩, hread, h⟩ := bind_eq_ok.mp h
    obtain ⟨⟨components, rest₂⟩, hothers, h⟩ := bind_eq_ok.mp h
    cases h
    obtain ⟨hrest, phrase, hphrase⟩ := hnested hread
    obtain ⟨others, hothers⟩ := ih _ hothers
    exact ⟨.next phrase others, .next hphrase hrest hothers⟩
  | case3 bound tokens rest₁ hand hnone =>
    obtain ⟨⟨component, rest₂⟩, hread, h⟩ := bind_eq_ok.mp h
    cases h
    obtain ⟨and, hmatches, rfl⟩ := connective?_eq_some hand
    obtain ⟨hrest, phrase, hphrase⟩ := hnested hread
    exact ⟨.last false and phrase, (FollowersReading.last hmatches hphrase hrest).2⟩
  | case4 bound tokens hnone hand =>
    cases h
    exact ⟨.none, .none⟩

theorem readTuple_sound (hnested : Sound levels nested)
    (hkeyword : Keyword.ofWord? keyword = some .tuple)
    (h : readTuple nested tokens = .ok (type, rest)) :
    ∃ phrase, phrase.suffixes = 0 ∧
      Reading phrase (levels + 1) (.word keyword :: tokens) type rest := by
  unfold readTuple at h
  obtain ⟨⟨components, rest₁⟩, hcomponents, h⟩ := bind_eq_ok.mp h
  -- a tuple of one component is refused, so there are followers
  have hlength : 2 ≤ components.length ∧ .tuple components = type ∧ rest₁ = rest := by
    simp only at h
    split at h
    · simp at h
    · next hlength =>
      cases h
      exact ⟨Nat.le_of_not_lt hlength, rfl, rfl⟩
  obtain ⟨hlength, rfl, rfl⟩ := hlength
  unfold readComponents at hcomponents
  split at hcomponents
  · obtain ⟨⟨first, rest₂⟩, hfirst, h⟩ := bind_eq_ok.mp hcomponents
    obtain ⟨⟨types, rest₃⟩, hothers, h⟩ := bind_eq_ok.mp h
    obtain ⟨rest₄, hsign, h⟩ := bind_eq_ok.mp h
    cases h
    obtain ⟨-, phrase, hphrase⟩ := hnested hfirst
    obtain ⟨others, hcommas, hothers⟩ := readAngleComponents_sound hnested hothers
    have hsome : others.types ≠ [] := by
      rw [hothers.types_eq]
      exact List.length_pos_iff.mp (Nat.le_of_succ_le_succ hlength)
    refine ⟨.tupleIn keyword phrase others, rfl,
      ⟨hkeyword, hphrase.wellSpelled, hothers.wellSpelled, hsome, hcommas⟩,
      ⟨hphrase.attached, hothers.attached⟩,
      Nat.succ_le_succ (Nat.max_le.mpr ⟨hphrase.levels_le, hothers.levels_le⟩), ?_, ?_, .inl rfl⟩
    · rw [Phrase.type, hphrase.type_eq, hothers.types_eq]
    · rw [hphrase.tokens_eq, hothers.tokens_eq, skipSign_eq_ok hsign]
      simp [Phrase.tokens]
  · obtain ⟨rest₂, hof, h⟩ := bind_eq_ok.mp hcomponents
    obtain ⟨⟨first, rest₃⟩, hfirst, h⟩ := bind_eq_ok.mp h
    obtain ⟨⟨types, rest₄⟩, hothers, h⟩ := bind_eq_ok.mp h
    cases h
    obtain ⟨of, hmatches, htokens⟩ := skipConnective_eq_ok hof
    obtain ⟨hrest, phrase, hphrase⟩ := hnested hfirst
    obtain ⟨others, hothers⟩ := readListedComponents_sound hnested hothers
    have hsome : others.types ≠ [] := by
      rw [hothers.types_eq]
      exact List.length_pos_iff.mp (Nat.le_of_succ_le_succ hlength)
    refine ⟨.tupleOf keyword of phrase others, rfl,
      ⟨hkeyword, hmatches, hphrase.wellSpelled, hothers.wellSpelled, hsome⟩,
      ⟨hphrase.attached, hothers.attached⟩,
      Nat.succ_le_succ (Nat.max_le.mpr ⟨hphrase.levels_le, hothers.levels_le⟩), ?_, ?_,
      .inr (hothers.noSuffix hrest)⟩
    · rw [Phrase.type, hphrase.type_eq, hothers.types_eq]
    · rw [htokens, hphrase.tokens_eq, hothers.tokens_eq]
      simp [Phrase.tokens]

theorem readPrimary_sound (hnested : Sound levels nested)
    (h : readPrimary nested tokens = .ok (type, rest)) :
    ∃ phrase, phrase.suffixes = 0 ∧ Reading phrase (levels + 1) tokens type rest := by
  unfold readPrimary at h
  split at h
  · next letters rest₁ =>
    split at h
    · next scalar hword =>
      cases h
      exact ⟨.word letters, rfl, .inl ⟨type, hword⟩, trivial, Nat.le_add_left 1 levels,
        wordType_of_scalar hword, rfl, .inl rfl⟩
    · next hword => exact readSequence_sound hnested hword h
    · next hword => exact readPair_sound hnested hword h
    · next hword => exact readTuple_sound hnested hword h
    · next hword =>
      split at h
      · simp at h
      · next hconnective =>
        split at h
        · next hidentifier =>
          cases h
          have hname : ValueType.IsName letters :=
            ⟨hidentifier, hword, Bool.eq_false_iff.mpr hconnective⟩
          exact ⟨.word letters, rfl, .inr hname, trivial, Nat.le_add_left 1 levels,
            wordType_of_isName hname, rfl, .inl rfl⟩
        · simp at h
  · unfold refuse at h
    split at h <;> simp at h

end Rules

/-! ## The whole -/

/-- Suffixes behind a phrase make a longer phrase. Each of them takes one off the room, so the
levels they reach stay within what suffixes and room make together. -/
theorem readSuffixes_sound {levels room : Nat} {tokens front rest : List Token}
    {type inner : ValueType} {phrase : Phrase} (hphrase : Reading phrase levels front inner tokens)
    (hroom : phrase.suffixes + room + 1 ≤ levels)
    (h : readSuffixes inner room tokens = .ok (type, rest)) :
    NoSuffix rest ∧ ∃ phrase, Reading phrase levels front type rest := by
  fun_induction readSuffixes inner room tokens generalizing phrase with
  | case1 inner tokens => simp at h
  | case2 inner tokens room ih =>
    -- a suffix is at hand, so the phrase is closed and takes it
    have hclosed : phrase.closed = true := hphrase.closed.resolve_right fun hnone => hnone rfl
    have hlonger : Reading (.suffixed phrase) levels front (.array inner) tokens := by
      refine ⟨hphrase.wellSpelled, ⟨hclosed, hphrase.attached⟩,
        Nat.max_le.mpr ⟨hphrase.levels_le, by omega⟩, ?_, ?_, .inl rfl⟩
      · rw [Phrase.type, hphrase.type_eq]
      · rw [hphrase.tokens_eq, Phrase.tokens]
        simp
    refine ih hlonger ?_ h
    rw [Phrase.suffixes]
    omega
  | case3 inner room tokens hnone =>
    cases h
    refine ⟨?_, phrase, hphrase⟩
    intro hhead
    obtain ⟨tokens, rfl⟩ := List.head?_eq_some_iff.mp hhead
    exact hnone _ rfl

theorem readType_sound : ∀ levels, Sound levels (readType levels)
  | 0, _, _, _, h => by simp [readType] at h
  | levels + 1, _, _, _, h => by
    obtain ⟨⟨inner, rest₁⟩, hprimary, h⟩ := bind_eq_ok.mp h
    obtain ⟨phrase, hsuffixes, hphrase⟩ := readPrimary_sound (readType_sound levels) hprimary
    refine readSuffixes_sound hphrase ?_ h
    rw [hsuffixes]
    omega

/-- **What is accepted is a phrase.** The tokens of a text that denotes a type are the tokens of a
well spelled phrase for that type. It keeps to the levels that the reader has, and each of its
suffixes stands behind something closed. -/
theorem exists_phrase_of_parse {text : List Char} {type : ValueType}
    (h : parse text = .ok type) :
    ∃ phrase : Phrase, Token.scan text = .ok phrase.tokens ∧ phrase.WellSpelled ∧
      phrase.Attached ∧ phrase.type = type ∧ phrase.levels ≤ maxNesting := by
  obtain ⟨tokens, hscan, h⟩ := bind_eq_ok.mp h
  unfold ofTokens at h
  split at h
  · simp at h
  · obtain ⟨⟨found, rest⟩, hread, h⟩ := bind_eq_ok.mp h
    cases rest with
    | cons extra rest => simp at h
    | nil =>
      cases h
      obtain ⟨-, phrase, hphrase⟩ := readType_sound maxNesting hread
      refine ⟨phrase, ?_, hphrase.wellSpelled, hphrase.attached, hphrase.type_eq,
        hphrase.levels_le⟩
      rw [hscan, hphrase.tokens_eq, List.append_nil]

end StarterCode.TypeExpr
