/-!
# Snake case

`snakeCase` turns a name in camel case into words joined by underscores: `twoSum` becomes `two_sum`
and `parseURLFast` becomes `parse_url_fast`.

Only an ASCII capital begins a word, and whether it does depends on its two neighbours in the name
as it was given. After a small letter or a digit it always does. After another capital it does
when a small letter follows, so the last capital of a run belongs to the next word. Anywhere else,
at the front and after an underscore or a foreign letter, it does not. So an underscore is only
ever put between two letters or digits, and the recursion needs to carry no more than the
character before.
-/

set_option autoImplicit false

namespace StarterCode.Text

/-- Whether a capital with these neighbours begins a new word. -/
def beginsWord (before after : Option Char) : Bool :=
  match before with
  | none => false
  | some b =>
    if b.isLower || b.isDigit then true
    else b.isUpper && after.any Char.isLower

/-- Lower-cases the name and puts an underscore before each capital that begins a word; `before` is
the character that stood before it. -/
def snakeCaseAfter (before : Option Char) : List Char → List Char
  | [] => []
  | c :: rest =>
    let tail := snakeCaseAfter (some c) rest
    if c.isUpper then
      if beginsWord before rest.head? then '_' :: c.toLower :: tail else c.toLower :: tail
    else c :: tail

/-- The name in snake case. -/
def snakeCase (name : List Char) : List Char :=
  snakeCaseAfter none name

example : snakeCase "parseURLFast2Go".toList = "parse_url_fast2_go".toList := by decide

example : snakeCase "_X_Y".toList = "_x_y".toList := by decide

end StarterCode.Text
