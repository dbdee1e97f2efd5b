import StarterCode.Problem
import StarterCode.Dialect

/-!
# Source code as lines

Source code is made as a list of lines without line ends, `Code`, and becomes text at the very
end. Pieces of code are put together with `++`, `Code.block` writes a header with an indented body
between braces, and a part of a file can be found again in the whole as a part of the list.

Two things come from the problem and not from a language. The comment that carries the name of the
problem must stay one comment: `commentText` breaks up the sign that closes a block comment and puts
blanks for line ends. And the place for the solver's code is marked in the same words everywhere.
-/

set_option autoImplicit false

namespace StarterCode

/-- Lines of source code. -/
abbrev Code := List String

namespace Code

/-- The code as the text of a file, a line end behind each line. -/
def text (code : Code) : String :=
  String.join (code.map (· ++ "\n"))

/-- The code moved four columns to the right. Empty lines stay empty. -/
def indented (code : Code) : Code :=
  code.map fun line => if line.isEmpty then line else "    " ++ line

/-- The text between braces, with nothing in between. -/
def braced (inner : String) : String :=
  "\x7b" ++ inner ++ "\x7d"

/-- The text between braces on one line. -/
def inBraces (inner : String) : String :=
  "\x7b " ++ inner ++ " \x7d"

/-- A header with a body between braces; `closing` follows the last brace. -/
def blockEnding (header : String) (body : Code) (closing : String) : Code :=
  [header ++ " \x7b"] ++ indented body ++ ["\x7d" ++ closing]

/-- A header with a body between braces. -/
def block (header : String) (body : Code) : Code :=
  blockEnding header body ""

/-- Pieces of code with an empty line between each and the next. -/
def spaced (pieces : List Code) : Code :=
  [""].intercalate pieces

end Code

/-! ## Comments -/

/-- The text with a blank in every sign that would close a block comment. -/
def openStars : List Char → List Char
  | [] => []
  | [c] => [c]
  | c :: d :: rest =>
    if c = '*' ∧ d = '/' then '*' :: ' ' :: '/' :: openStars rest
    else c :: openStars (d :: rest)

/-- The name of a problem as it may stand in a comment. -/
def commentText (name : String) : String :=
  String.ofList ((openStars name.toList).map fun c => if c = '\n' ∨ c = '\r' then ' ' else c)

/-- What a stub says where the solver's code goes. -/
def placeholder : String := "// Implementation goes here"

/-! ## Inputs -/

/-- What a program reads, each with the variable that takes it. -/
def readings (laidOut : LaidOutProblem) (header : Header) : List (Input × Variable) :=
  laidOut.inputs.zip header.parameters

/-- Whether some input fills a line. -/
def readsLines (laidOut : LaidOutProblem) : Bool :=
  laidOut.inputs.any (·.layout == .line)

end StarterCode
