/-!
# Identifiers

The names a document may give to a function, a parameter or a type: an ASCII letter, then ASCII
letters, digits and underscores. The three target languages all admit such a name, reserved words
apart.
-/

set_option autoImplicit false

namespace StarterCode.Text

/-- A character that may stand inside an identifier. -/
def isNameChar (c : Char) : Bool :=
  c.isAlphanum || c == '_'

/-- An ASCII letter followed by name characters. -/
def isIdentifier : List Char → Bool
  | [] => false
  | first :: rest => first.isAlpha && rest.all isNameChar

example : isIdentifier "two_Sum2".toList = true := by decide

example : isIdentifier "_x".toList = false := by decide

end StarterCode.Text
