import StarterCode.FileTree
import StarterCode.Problem.ParseError
import StarterCode.Spelling

/-!
# Failures

Whatever can stop the generation of starter code: something is not there, the document is wrong, the
problem cannot be expressed in a language, or a file cannot be read or written.
-/

set_option autoImplicit false

namespace StarterCode

/-- Why no starter code was generated. -/
inductive Failure where
  /-- Something that is needed is not at the path. -/
  | missing (what path : String)
  /-- The document is wrong. -/
  | parse (error : ParseError)
  /-- A language cannot express the problem. -/
  | emission (error : EmissionError)
  /-- A file cannot be read or written. -/
  | file (path : String) (fault : FileFault)

/-- The wording of a failure. -/
def Failure.message : Failure → String
  | .missing what path => "Structural error: " ++ what ++ " not found at " ++ Path.shown path
  | .parse error => "Parse error: " ++ error.text
  | .emission error => "Emission error: " ++ error.text
  | .file path fault => "I/O error on " ++ Path.shown path ++ ": " ++ fault.message

/-- A result whose failure is an error in a document. -/
def Failure.ofParse {α : Type} : Except ParseError α → Except Failure α :=
  Except.mapError .parse

/-- A result whose failure is that a language cannot express a problem. -/
def Failure.ofEmission {α : Type} : Except EmissionError α → Except Failure α :=
  Except.mapError .emission

end StarterCode
