import Mathlib.Data.List.Infix

/-!
# Numbers in a text

Generated code counts: it has one text for each number of a range, with a separator in between.
`numbersBetween` reads the numbers back, wherever they stand between two given words. It tries each
position of the text, so it finds a number twice if it is there twice.

What it finds is known when the first character of the word in front of a number is in no other
place (`Marks`). Then nothing is read at any position but those at which a text for a number begins,
and the numbers of joined texts are those that the texts have been made of
(`numbersBetween_intercalate`).
-/

set_option autoImplicit false

namespace StarterCode.Text

/-- The number at the front of the text, between the words `before` and `after`. -/
def numberAt? (before after text : List Char) : Option Nat := do
  let rest ← before.isPrefixOf? text
  let digits := rest.takeWhile Char.isDigit
  if digits ≠ [] ∧ after.isPrefixOf (rest.dropWhile Char.isDigit) = true then
    some (Nat.ofDigitChars 10 digits 0)
  else none

/-- The numbers that stand between the words `before` and `after`, from left to right. -/
def numbersBetween (before after text : List Char) : List Nat :=
  text.tails.filterMap (numberAt? before after)

example : numbersBetween "f".toList "(".toList "f1() + f20(f3, f4())".toList = [1, 20, 4] := by
  decide

variable {before after text : List Char}

/-! ## Positions without a number -/

/-- A number stands in front of the word behind it. -/
theorem infix_of_numberAt? {number : Nat} (h : numberAt? before after text = some number) :
    after <:+: text := by
  obtain ⟨rest, hrest, hread⟩ := Option.bind_eq_some_iff.mp h
  obtain rfl := List.isPrefixOf?_eq_some_iff_append_eq.mp hrest
  rw [Option.ite_none_right_eq_some] at hread
  have hafter := (List.isPrefixOf_iff_prefix.mp hread.1.2).isInfix
  exact hafter.trans ((List.dropWhile_suffix _).trans (List.suffix_append _ _)).isInfix

/-- In a text without a character of the word behind them there are no numbers. -/
theorem numbersBetween_of_not_mem {c : Char} (hafter : c ∈ after) (htext : c ∉ text) :
    numbersBetween before after text = [] := by
  rw [numbersBetween, List.filterMap_eq_nil_iff]
  intro rest hrest
  rw [Option.eq_none_iff_forall_ne_some]
  intro number hnumber
  have hsuffix : rest <:+ text := (List.mem_tails _ _).mp hrest
  exact htext (hsuffix.subset ((infix_of_numberAt? hnumber).subset hafter))

theorem numberAt?_cons_of_ne {c d : Char} (h : d ≠ c) :
    numberAt? (c :: before) after (d :: text) = none := by
  have hne : (c == d) = false := beq_eq_false_iff_ne.mpr h.symm
  rw [numberAt?, List.isPrefixOf?, hne]
  rfl

theorem numbersBetween_cons (d : Char) :
    numbersBetween before after (d :: text) =
      (numberAt? before after (d :: text)).toList ++ numbersBetween before after text := by
  rw [numbersBetween, List.tails_cons, List.filterMap_cons, numbersBetween]
  cases numberAt? before after (d :: text) <;> rfl

/-- Numbers are not read where the word in front of them cannot begin. -/
theorem numbersBetween_append_of_not_mem {c : Char} {front : List Char} (h : c ∉ front) :
    numbersBetween (c :: before) after (front ++ text) =
      numbersBetween (c :: before) after text := by
  induction front with
  | nil => rfl
  | cons d front ih =>
    rw [List.mem_cons, not_or] at h
    rw [List.cons_append, numbersBetween_cons, numberAt?_cons_of_ne fun heq => h.1 heq.symm, ih h.2]
    rfl

/-! ## Joined texts -/

theorem toList_toString (number : Nat) : (toString number).toList = Nat.toDigits 10 number := by
  rw [Nat.toString_eq_ofList_toDigits, String.toList_ofList]

/-- A number is written with digits. -/
theorem not_mem_toDigits {c : Char} (h : c.isDigit = false) (number : Nat) :
    c ∉ Nat.toDigits 10 number := by
  intro hmem
  rw [Nat.isDigit_of_mem_toDigits (by omega) (Nat.le_refl 10) hmem] at h
  cases h

/-- The text of a number between two words. -/
def numbered (before after : List Char) (number : Nat) : List Char :=
  before ++ (Nat.toDigits 10 number ++ after)

/-- Words of which the first one begins with a character that is in no other place, neither in the
words nor in a number, while the second one does not continue a number. -/
structure Marks (c : Char) (before after : List Char) : Prop where
  not_isDigit : c.isDigit = false
  not_mem_before : c ∉ before
  not_mem_after : c ∉ after
  head?_after : ∃ d, after.head? = some d ∧ d.isDigit = false

/-- A number is read where it stands between the words. -/
theorem numberAt?_numbered (h : ∃ d, after.head? = some d ∧ d.isDigit = false) (number : Nat)
    (rest : List Char) :
    numberAt? before after (numbered before after number ++ rest) = some number := by
  obtain ⟨d, hhead, hdigit⟩ := h
  obtain ⟨behind, rfl⟩ := List.head?_eq_some_iff.mp hhead
  have hdigits : ∀ c ∈ Nat.toDigits 10 number, c.isDigit = true := fun c hc =>
    Nat.isDigit_of_mem_toDigits (by omega) (Nat.le_refl 10) hc
  have hfront : before.isPrefixOf? (numbered before (d :: behind) number ++ rest) =
      some (Nat.toDigits 10 number ++ d :: (behind ++ rest)) :=
    List.isPrefixOf?_eq_some_iff_append_eq.mpr (by simp [numbered])
  have htake : (Nat.toDigits 10 number ++ d :: (behind ++ rest)).takeWhile Char.isDigit =
      Nat.toDigits 10 number := by
    rw [List.takeWhile_append_of_pos hdigits, List.takeWhile_cons, hdigit]
    exact List.append_nil _
  have hdrop : (Nat.toDigits 10 number ++ d :: (behind ++ rest)).dropWhile Char.isDigit =
      d :: (behind ++ rest) := by
    rw [List.dropWhile_append_of_pos hdigits, List.dropWhile_cons_of_neg (by simp [hdigit])]
  have hbehind : (d :: behind).isPrefixOf (d :: (behind ++ rest)) = true :=
    List.isPrefixOf_iff_prefix.mpr (List.prefix_append (d :: behind) rest)
  rw [numberAt?, hfront, Option.bind_eq_bind, Option.bind_some, htake, hdrop,
    if_pos ⟨Nat.toDigits_ne_nil, hbehind⟩, Nat.ofDigitChars_ten_toDigits]

namespace Marks

variable {c : Char}

/-- A number is read once from its text. -/
theorem numbersBetween_numbered (h : Marks c before after) (number : Nat) (rest : List Char) :
    numbersBetween (c :: before) after (numbered (c :: before) after number ++ rest) =
      number :: numbersBetween (c :: before) after rest := by
  have hbehind : c ∉ before ++ (Nat.toDigits 10 number ++ after) := by
    rw [List.mem_append, List.mem_append, not_or, not_or]
    exact ⟨h.not_mem_before, not_mem_toDigits h.not_isDigit number, h.not_mem_after⟩
  have hread : numberAt? (c :: before) after (numbered (c :: before) after number ++ rest) =
      some number := numberAt?_numbered h.head?_after number rest
  rw [numbered, List.cons_append, List.cons_append] at hread ⊢
  rw [numbersBetween_cons, hread, numbersBetween_append_of_not_mem hbehind]
  rfl

/-- **Numbers are read back.** From joined texts the numbers are read that they have been made of,
and then those behind them. -/
theorem numbersBetween_intercalate (h : Marks c before after) {separator : List Char}
    (hseparator : c ∉ separator) (numbers : List Nat) (rest : List Char) :
    numbersBetween (c :: before) after
        (separator.intercalate (numbers.map (numbered (c :: before) after)) ++ rest) =
      numbers ++ numbersBetween (c :: before) after rest := by
  induction numbers with
  | nil => rfl
  | cons number numbers ih =>
    by_cases hnil : numbers = []
    · subst hnil
      rw [List.map_singleton, List.intercalate_singleton, h.numbersBetween_numbered]
      rfl
    · rw [List.map_cons, List.intercalate_cons_of_ne_nil (by simpa using hnil), List.append_assoc,
        List.append_assoc, h.numbersBetween_numbered,
        numbersBetween_append_of_not_mem hseparator, ih, List.cons_append]

end Marks

end StarterCode.Text
