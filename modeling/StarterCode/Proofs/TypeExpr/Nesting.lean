import StarterCode.Proofs.TypeExpr.Grammar

/-!
# Levels and depth

The reader bounds the levels of a phrase, `Phrase.levels`, while the height of the type that comes
out is the depth of the phrase, `Phrase.nesting`. The two agree unless a suffix stands behind an
angle bracket. A suffix behind a word adds a level on top of one level, which is all that the word
has; a suffix behind `list<...>` does so too, however deep it is between the brackets.

How far they may differ is settled by the number of levels: of `n` levels, `n - 1` may be used
inside the brackets and another `n - 1` by suffixes behind them, and the same again inside. So the
depth is at most the sum of all numbers up to `n`.
-/

set_option autoImplicit false

namespace StarterCode.TypeExpr

/-- Whether somewhere in the tokens a suffix stands directly behind an angle bracket. -/
def SuffixBehindAngle (tokens : List Token) : Prop :=
  [.rightAngle, .brackets] <:+: tokens

theorem SuffixBehindAngle.mono {part tokens : List Token} (h : SuffixBehindAngle part)
    (hpart : part <:+: tokens) : SuffixBehindAngle tokens :=
  List.IsInfix.trans h hpart

/-! ## Where the two agree -/

/-- A suffixed phrase has one level more than it has suffixes if they stand behind a word. -/
theorem Phrase.levels_suffixed : ∀ inner : Phrase, (Phrase.suffixed inner).Attached →
    ¬ SuffixBehindAngle (Phrase.suffixed inner).tokens →
    (Phrase.suffixed inner).levels = inner.suffixes + 2 ∧
      (Phrase.suffixed inner).nesting = inner.suffixes + 2
  | .word _, _, _ => ⟨rfl, rfl⟩
  | .sequenceOf _ _ _, h, _ | .pairOf _ _ _ _ _, h, _ | .tupleOf _ _ _ _, h, _ =>
    absurd h.1 Bool.false_ne_true
  | .sequenceIn keyword element, _, h =>
    absurd ⟨.word keyword :: .leftAngle :: element.tokens, [], by simp [Phrase.tokens]⟩ h
  | .pairIn keyword first second, _, h =>
    absurd ⟨.word keyword :: .leftAngle :: (first.tokens ++ .comma :: second.tokens), [], by
      simp [Phrase.tokens]⟩ h
  | .tupleIn keyword first others, _, h =>
    absurd ⟨.word keyword :: .leftAngle :: (first.tokens ++ others.tokens), [], by
      simp [Phrase.tokens]⟩ h
  | .suffixed inner, hattached, h => by
    have hinner : ¬ SuffixBehindAngle (Phrase.suffixed inner).tokens := fun hbehind =>
      h (hbehind.mono ⟨[], [.brackets], by simp [Phrase.tokens]⟩)
    obtain ⟨hlevels, hnesting⟩ := Phrase.levels_suffixed inner hattached.2 hinner
    rw [Phrase.levels, Phrase.nesting, hlevels, hnesting, Phrase.suffixes]
    omega

mutual

/-- Where no suffix stands behind an angle bracket, the levels of a phrase are its depth. -/
theorem Phrase.levels_eq_nesting : ∀ phrase : Phrase, phrase.Attached →
    ¬ SuffixBehindAngle phrase.tokens → phrase.levels = phrase.nesting
  | .word _, _, _ => rfl
  | .sequenceOf keyword of element, hattached, h => by
    have helement := Phrase.levels_eq_nesting element hattached fun hbehind =>
      h (hbehind.mono ⟨[.word keyword, .word of], [], by simp [Phrase.tokens]⟩)
    rw [Phrase.levels, Phrase.nesting, helement]
  | .sequenceIn keyword element, hattached, h => by
    have helement := Phrase.levels_eq_nesting element hattached fun hbehind =>
      h (hbehind.mono ⟨[.word keyword, .leftAngle], [.rightAngle], by simp [Phrase.tokens]⟩)
    rw [Phrase.levels, Phrase.nesting, helement]
  | .pairOf keyword of first and second, hattached, h => by
    have hfirst := Phrase.levels_eq_nesting first hattached.1 fun hbehind =>
      h (hbehind.mono ⟨[.word keyword, .word of], .word and :: second.tokens, by
        simp [Phrase.tokens]⟩)
    have hsecond := Phrase.levels_eq_nesting second hattached.2 fun hbehind =>
      h (hbehind.mono ⟨.word keyword :: .word of :: (first.tokens ++ [.word and]), [], by
        simp [Phrase.tokens]⟩)
    rw [Phrase.levels, Phrase.nesting, hfirst, hsecond]
  | .pairIn keyword first second, hattached, h => by
    have hfirst := Phrase.levels_eq_nesting first hattached.1 fun hbehind =>
      h (hbehind.mono ⟨[.word keyword, .leftAngle], .comma :: (second.tokens ++ [.rightAngle]), by
        simp [Phrase.tokens]⟩)
    have hsecond := Phrase.levels_eq_nesting second hattached.2 fun hbehind =>
      h (hbehind.mono ⟨.word keyword :: .leftAngle :: (first.tokens ++ [.comma]), [.rightAngle], by
        simp [Phrase.tokens]⟩)
    rw [Phrase.levels, Phrase.nesting, hfirst, hsecond]
  | .tupleOf keyword of first others, hattached, h => by
    have hfirst := Phrase.levels_eq_nesting first hattached.1 fun hbehind =>
      h (hbehind.mono ⟨[.word keyword, .word of], others.tokens, by simp [Phrase.tokens]⟩)
    have hothers := Followers.levels_eq_nesting others hattached.2 fun hbehind =>
      h (hbehind.mono ⟨.word keyword :: .word of :: first.tokens, [], by simp [Phrase.tokens]⟩)
    rw [Phrase.levels, Phrase.nesting, hfirst, hothers]
  | .tupleIn keyword first others, hattached, h => by
    have hfirst := Phrase.levels_eq_nesting first hattached.1 fun hbehind =>
      h (hbehind.mono ⟨[.word keyword, .leftAngle], others.tokens ++ [.rightAngle], by
        simp [Phrase.tokens]⟩)
    have hothers := Followers.levels_eq_nesting others hattached.2 fun hbehind =>
      h (hbehind.mono ⟨.word keyword :: .leftAngle :: first.tokens, [.rightAngle], by
        simp [Phrase.tokens]⟩)
    rw [Phrase.levels, Phrase.nesting, hfirst, hothers]
  | .suffixed inner, hattached, h => by
    obtain ⟨hlevels, hnesting⟩ := Phrase.levels_suffixed inner hattached h
    rw [hlevels, hnesting]

/-- So are the levels of followers. -/
theorem Followers.levels_eq_nesting : ∀ others : Followers, others.Attached →
    ¬ SuffixBehindAngle others.tokens → others.levels = others.nesting
  | .none, _, _ => rfl
  | .next component others, hattached, h => by
    have hcomponent := Phrase.levels_eq_nesting component hattached.1 fun hbehind =>
      h (hbehind.mono ⟨[.comma], others.tokens, by simp [Followers.tokens]⟩)
    have hothers := Followers.levels_eq_nesting others hattached.2 fun hbehind =>
      h (hbehind.mono ⟨.comma :: component.tokens, [], by simp [Followers.tokens]⟩)
    rw [Followers.levels, Followers.nesting, hcomponent, hothers]
  | .last true and component, hattached, h => by
    have hcomponent := Phrase.levels_eq_nesting component hattached fun hbehind =>
      h (hbehind.mono ⟨[.comma, .word and], [], by simp [Followers.tokens]⟩)
    rw [Followers.levels, Followers.nesting, hcomponent]
  | .last false and component, hattached, h => by
    have hcomponent := Phrase.levels_eq_nesting component hattached fun hbehind =>
      h (hbehind.mono ⟨[.word and], [], by simp [Followers.tokens]⟩)
    rw [Followers.levels, Followers.nesting, hcomponent]

end

/-! ## How far they differ -/

/-- The sum of the numbers up to `n`. -/
def sumTo : Nat → Nat
  | 0 => 0
  | n + 1 => sumTo n + (n + 1)

theorem sumTo_mono {m n : Nat} (h : m ≤ n) : sumTo m ≤ sumTo n := by
  induction h with
  | refl => exact Nat.le_refl _
  | step _ ih =>
    rw [sumTo]
    omega

theorem sumTo_max (m n : Nat) : max (sumTo m) (sumTo n) = sumTo (max m n) := by
  rcases Nat.le_total m n with h | h
  · rw [Nat.max_eq_right h, Nat.max_eq_right (sumTo_mono h)]
  · rw [Nat.max_eq_left h, Nat.max_eq_left (sumTo_mono h)]

theorem Phrase.suffixes_lt_levels (phrase : Phrase) : phrase.suffixes < phrase.levels := by
  cases phrase with
  | suffixed inner =>
    rw [suffixes, levels]
    omega
  | _ => exact Nat.succ_pos _

/-- One level holds the phrase itself and its suffixes, on top of what the others hold. -/
def Phrase.Bounded (phrase : Phrase) : Prop :=
  phrase.nesting ≤ sumTo (phrase.levels - 1) + 1 + phrase.suffixes

theorem Phrase.Bounded.nesting_le {phrase : Phrase} (h : phrase.Bounded) :
    phrase.nesting ≤ sumTo phrase.levels := by
  have hlevels := phrase.suffixes_lt_levels
  obtain ⟨levels, heq⟩ : ∃ n, phrase.levels = n + 1 := ⟨phrase.levels - 1, by omega⟩
  rw [Bounded, heq, Nat.add_sub_cancel] at h
  rw [heq, sumTo]
  omega

/-- A phrase without suffixes is bounded by what stands inside it. -/
theorem Phrase.Bounded.of_inside {phrase : Phrase} {levels nesting : Nat}
    (hlevels : phrase.levels = levels + 1) (hnesting : phrase.nesting = nesting + 1)
    (h : nesting ≤ sumTo levels) : phrase.Bounded := by
  rw [Bounded, hlevels, hnesting, Nat.add_sub_cancel]
  omega

mutual

theorem Phrase.bounded : ∀ phrase : Phrase, phrase.Bounded
  | .word _ => Nat.le_refl _
  | .sequenceOf _ _ element | .sequenceIn _ element =>
    .of_inside rfl rfl (Phrase.bounded element).nesting_le
  | .pairOf _ _ first _ second | .pairIn _ first second => by
    refine .of_inside rfl rfl ?_
    have := (Phrase.bounded first).nesting_le
    have := (Phrase.bounded second).nesting_le
    rw [← sumTo_max]
    omega
  | .tupleOf _ _ first others | .tupleIn _ first others => by
    refine .of_inside rfl rfl ?_
    have := (Phrase.bounded first).nesting_le
    have := Followers.nesting_le others
    rw [← sumTo_max]
    omega
  | .suffixed inner => by
    have hinner := Phrase.bounded inner
    have hmono : sumTo (inner.levels - 1) ≤ sumTo ((Phrase.suffixed inner).levels - 1) :=
      sumTo_mono (Nat.sub_le_sub_right (Nat.le_max_left _ _) 1)
    rw [Phrase.Bounded] at hinner ⊢
    rw [Phrase.nesting, Phrase.suffixes]
    omega

/-- The depth of followers is at most the sum of the numbers up to their levels. -/
theorem Followers.nesting_le : ∀ others : Followers, others.nesting ≤ sumTo others.levels
  | .none => Nat.le_refl _
  | .next component others => by
    have := (Phrase.bounded component).nesting_le
    have := Followers.nesting_le others
    rw [Followers.nesting, Followers.levels, ← sumTo_max]
    omega
  | .last _ _ component => (Phrase.bounded component).nesting_le

end

end StarterCode.TypeExpr
