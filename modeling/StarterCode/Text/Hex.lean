/-!
# Hexadecimal digits

Numbers in base sixteen with small letters and a fixed count of digits, the most significant one
first.
-/

set_option autoImplicit false

namespace StarterCode.Text

/-- The sixteen digits. -/
def hexDigits : List Char := "0123456789abcdef".toList

/-- The last `count` digits of a number. -/
def hex : (count : Nat) → Nat → List Char
  | 0, _ => []
  | count + 1, n => hex count (n / 16) ++ [hexDigits.getD (n % 16) '0']

/-- There are as many digits as asked for. -/
@[simp] theorem length_hex (count n : Nat) : (hex count n).length = count := by
  induction count generalizing n with
  | zero => rfl
  | succ count ih => simp [hex, ih]

example : hex 4 0x1bf = "01bf".toList := by decide

end StarterCode.Text
