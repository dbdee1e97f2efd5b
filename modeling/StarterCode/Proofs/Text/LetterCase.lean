import StarterCode.Text.Identifier

/-!
# Letter case

Only the ASCII letters have a letter case, 26 of either one, so what holds of the capitals or of the
small letters one by one holds of all (`forall_isUpper`, `forall_isLower`). Everything else is the
same in small letters.

A letter is a character of names in either case. So a text in small letters has its name characters
in the same places, and all other characters are as before.
-/

set_option autoImplicit false

namespace StarterCode.Text

/-! ## Letters -/

/-- What holds of the 26 characters from `first` on holds of all up to the last one. -/
theorem forall_letters {P : Char → Prop} {first : Nat}
    (h : ∀ n < 26, P (Char.ofNat (first + n))) {c : Char} (hfirst : first ≤ c.toNat)
    (hlast : c.toNat < first + 26) : P c := by
  have hc := h (c.toNat - first) (by omega)
  rwa [Nat.add_sub_cancel' hfirst, Char.ofNat_toNat] at hc

theorem forall_isUpper (P : Char → Prop) (h : ∀ n < 26, P (Char.ofNat (65 + n))) {c : Char}
    (hc : c.isUpper = true) : P c := by
  obtain ⟨hfirst, hlast⟩ := of_decide_eq_true hc
  have hfirst := UInt32.le_iff_toNat_le.mp hfirst
  have hlast := UInt32.le_iff_toNat_le.mp hlast
  exact forall_letters h hfirst (Nat.lt_succ_of_le hlast)

theorem forall_isLower (P : Char → Prop) (h : ∀ n < 26, P (Char.ofNat (97 + n))) {c : Char}
    (hc : c.isLower = true) : P c := by
  obtain ⟨hfirst, hlast⟩ := Bool.and_eq_true_iff.mp hc
  have hfirst := UInt32.le_iff_toNat_le.mp (of_decide_eq_true hfirst)
  have hlast := UInt32.le_iff_toNat_le.mp (of_decide_eq_true hlast)
  exact forall_letters h hfirst (Nat.lt_succ_of_le hlast)

theorem toLower_of_not_isUpper {c : Char} (h : c.isUpper = false) : c.toLower = c :=
  dif_neg (of_decide_eq_false h)

theorem toUpper_of_not_isLower {c : Char} (h : c.isLower = false) : c.toUpper = c := by
  apply dif_neg
  rintro ⟨hfirst, hlast⟩
  have hc : c.isLower = true :=
    Bool.and_eq_true_iff.mpr ⟨decide_eq_true hfirst, decide_eq_true hlast⟩
  rw [hc] at h
  cases h

/-- A character in small letters is no capital, and is a letter if it was one. -/
theorem isUpper_toLower (c : Char) : c.toLower.isUpper = false := by
  cases hupper : c.isUpper with
  | true => exact forall_isUpper (fun c => c.toLower.isUpper = false) (by decide) hupper
  | false => rw [toLower_of_not_isUpper hupper, hupper]

theorem isAlpha_toLower (c : Char) : c.toLower.isAlpha = c.isAlpha := by
  cases hupper : c.isUpper with
  | true => exact forall_isUpper (fun c => c.toLower.isAlpha = c.isAlpha) (by decide) hupper
  | false => rw [toLower_of_not_isUpper hupper]

theorem toLower_toLower (c : Char) : c.toLower.toLower = c.toLower :=
  toLower_of_not_isUpper (isUpper_toLower c)

theorem toLower_toUpper (c : Char) : c.toUpper.toLower = c.toLower := by
  cases hlower : c.isLower with
  | true => exact forall_isLower (fun c => c.toUpper.toLower = c.toLower) (by decide) hlower
  | false => rw [toUpper_of_not_isLower hlower]

/-! ## Names -/

/-- A name character is one in either letter case. -/
theorem isNameChar_toLower (c : Char) : isNameChar c.toLower = isNameChar c := by
  cases hupper : c.isUpper with
  | true =>
    exact forall_isUpper (fun c => isNameChar c.toLower = isNameChar c) (by decide) hupper
  | false => rw [toLower_of_not_isUpper hupper]

/-- A character that no name contains has no other letter case. -/
theorem toLower_of_not_isNameChar {c : Char} (h : isNameChar c = false) : c.toLower = c := by
  cases hupper : c.isUpper with
  | true =>
    have halpha : c.isAlpha = true := Bool.or_eq_true_iff.mpr (.inl hupper)
    rw [isNameChar, Char.isAlphanum, halpha] at h
    cases h
  | false => exact toLower_of_not_isUpper hupper

theorem all_isNameChar_map_toLower (s : List Char) :
    (s.map Char.toLower).all isNameChar = s.all isNameChar := by
  induction s with
  | nil => rfl
  | cons c s ih => rw [List.map_cons, List.all_cons, List.all_cons, isNameChar_toLower, ih]

/-- An identifier is one in either letter case. -/
theorem isIdentifier_map_toLower (s : List Char) :
    isIdentifier (s.map Char.toLower) = isIdentifier s := by
  cases s with
  | nil => rfl
  | cons c s =>
    rw [List.map_cons, isIdentifier, isIdentifier, isAlpha_toLower,
      all_isNameChar_map_toLower]

end StarterCode.Text
