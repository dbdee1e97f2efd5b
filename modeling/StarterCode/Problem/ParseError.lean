import StarterCode.Document
import StarterCode.Problem
import StarterCode.TypeExpr.Token

/-!
# Errors in documents

Reading a document stops at the first thing that is wrong with it. A `ParseError` says which line
and which label it is about, and its `Complaint` says why. Errors about something that is absent
name no line.
-/

set_option autoImplicit false

namespace StarterCode

/-- What can be wrong with a document. -/
inductive Complaint where
  /-- A line with this label is needed. -/
  | missing (label : Label)
  /-- A label that may stand once stands again. -/
  | repeated (label : Label) (firstLine : Nat)
  /-- The problem name has no quotes round it. -/
  | unquotedName (value : String)
  /-- There is nothing between the quotes of the problem name. -/
  | blankName
  /-- The function has no name. -/
  | missingFunctionName
  /-- The name of the function is no identifier. -/
  | invalidFunctionName (value : String)
  /-- A parameter line is empty. -/
  | missingParameter
  /-- The name of a parameter is no identifier. -/
  | invalidParameterName (name : String)
  /-- A parameter has no type. -/
  | missingType (name : String)
  /-- A text is not a type expression. -/
  | badType (source : String) (error : TypeError)
  /-- Two parameters have one name. -/
  | duplicateParameter (name : String)
  /-- A program needs something to read. -/
  | noParameter
  /-- The name of the returned value is that of a parameter. -/
  | outputNameTaken (name : String)
  /-- A layout line is not made of two words. -/
  | malformedLayout (value : String)
  /-- A layout line names no parameter. -/
  | unknownParameter (name : String)
  /-- There is no such input layout. -/
  | unknownInputLayout (word : String)
  /-- The `line` layout does not fit the type of the parameter. -/
  | unfitInputLayout (name : String) (type : ValueType)
  /-- A parameter has a layout already. -/
  | repeatedInputLayout (name : String)
  /-- There is no such output layout. -/
  | unknownOutputLayout (word : String)
  /-- The `lines` layout does not fit the return type. -/
  | unfitOutputLayout (type : ValueType)
  /-- A complaint in words of its own. -/
  | other (text : String)

/-- The wording of a complaint. -/
def Complaint.message : Complaint → String
  | .missing label => "missing `" ++ label.text ++ ":` line"
  | .repeated label firstLine => "`" ++ label.text ++ s!":` already given on line {firstLine}"
  | .unquotedName value => "problem name must be in double quotes, found '" ++ value ++ "'"
  | .blankName => "problem name is empty"
  | .missingFunctionName => "missing function name"
  | .invalidFunctionName value =>
    "'" ++ value ++
      "' is not a valid identifier (letters, digits, underscore; must start with a letter)"
  | .missingParameter => "missing parameter name and type"
  | .invalidParameterName name => "'" ++ name ++ "' is not a valid parameter name"
  | .missingType name => "missing type expression for '" ++ name ++ "'"
  | .badType source error => error.message source
  | .duplicateParameter name => "duplicate parameter name '" ++ name ++ "'"
  | .noParameter => "at least 1 `Input Field:` line is required for full generation"
  | .outputNameTaken name => "output name '" ++ name ++ "' is already a parameter name"
  | .malformedLayout value => "expected `<field> <layout>`, found '" ++ value ++ "'"
  | .unknownParameter name => "'" ++ name ++ "' is not an input field"
  | .unknownInputLayout word =>
    "unknown input layout '" ++ word ++ "' (expected counted or line)"
  | .unfitInputLayout name type =>
    "layout 'line' needs an array of scalars, but '" ++ name ++ "' is " ++ type.text
  | .repeatedInputLayout name => "layout for '" ++ name ++ "' already given"
  | .unknownOutputLayout word =>
    "unknown output layout '" ++ word ++ "' (expected line or lines)"
  | .unfitOutputLayout type => "layout 'lines' needs an array return type, found " ++ type.text
  | .other text => text

/-- A complaint and the place it is about. -/
structure ParseError where
  /-- The number of the line, where there is one. -/
  line : Option Nat
  /-- The text of the label. -/
  field : String
  /-- What is wrong. -/
  complaint : Complaint

namespace ParseError

/-- The wording of the complaint. -/
def message (error : ParseError) : String :=
  error.complaint.message

/-- The wording with the place in front. -/
def text (error : ParseError) : String :=
  match error.line with
  | some line => s!"line {line} (" ++ error.field ++ "): " ++ error.message
  | none => error.field ++ ": " ++ error.message

end ParseError

/-- Fails with a complaint about this line. -/
def LabelledLine.fail {α : Type} (line : LabelledLine) (complaint : Complaint) :
    Except ParseError α :=
  .error ⟨some line.line, line.label.text, complaint⟩

/-- Fails with a complaint about the absence of lines with this label. -/
def Label.fail {α : Type} (label : Label) (complaint : Complaint) : Except ParseError α :=
  .error ⟨none, label.text, complaint⟩

end StarterCode
