import StarterCode.Language.Cpp
import StarterCode.Language.JavaScript
import StarterCode.Language.Rust

/-!
# Emission

Writing the starter code of a problem in any of the languages: the header first, which is where an
inexpressible name or type is found, then the code. A stub and a program are made from the same
header and hold the same function.
-/

set_option autoImplicit false

namespace StarterCode

namespace Language

/-- What the language lays down about names and types. -/
def dialect : Language → Dialect
  | .cpp => Cpp.dialect
  | .javaScript => JavaScript.dialect
  | .rust => Rust.dialect

/-- The code of a stub under a header made for the problem. -/
def stubCode : Language → Problem → Header → Code
  | .cpp => Cpp.stub
  | .javaScript => JavaScript.stub
  | .rust => Rust.stub

/-- The code of a program under a header made for the problem. -/
def programCode : Language → LaidOutProblem → Header → Except EmissionError Code
  | .cpp => fun laidOut header => .ok (Cpp.program laidOut header)
  | .javaScript => JavaScript.program
  | .rust => fun laidOut header => .ok (Rust.program laidOut header)

end Language

/-- The stub of the problem. -/
def Problem.emit (problem : Problem) (language : Language) : Except EmissionError Code := do
  let header ← language.dialect.header problem
  return language.stubCode problem header

/-- The program of the problem. -/
def LaidOutProblem.emit (laidOut : LaidOutProblem) (language : Language) :
    Except EmissionError Code := do
  let header ← language.dialect.header laidOut.problem
  language.programCode laidOut header

end StarterCode
