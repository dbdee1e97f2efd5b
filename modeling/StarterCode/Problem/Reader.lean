import StarterCode.Problem.ParseError
import StarterCode.TypeExpr.Parser

/-!
# Reading problems from documents

A problem is put together from the labelled lines of its document. The order of the lines matters
for the parameters alone; the names of problem and function and the returned value each stand on
exactly one line, wherever that is.

The checks run in a fixed order and the first failure is the answer: problem name, function name,
parameters from top to bottom, their number, returned value, and for a program the layouts of the
inputs from top to bottom and that of the output. A stub and a program read the same problem, and a
stub ignores the layouts.

The line of the returned value may or may not begin with a name. The whole value is first read as a
type, and only if it is none does its first word count as a name.
-/

set_option autoImplicit false

namespace StarterCode

namespace Problem

/-! ## The parts of a problem -/

/-- The only line with this label. -/
def onlyLine (label : Label) (lines : List LabelledLine) : Except ParseError LabelledLine :=
  match lines.filter (·.label == label) with
  | [] => label.fail (.missing label)
  | [line] => .ok line
  | first :: second :: _ => second.fail (.repeated label first.line)

/-- What stands between double quotes at either end of the text. -/
def unquoted? (text : List Char) : Option (List Char) := do
  ['"'].isSuffixOf? (← ['"'].isPrefixOf? text)

/-- The problem name on its line: not blank, in double quotes. -/
def readName (line : LabelledLine) : Except ParseError String :=
  match unquoted? line.value.toList with
  | none => line.fail (.unquotedName line.value)
  | some inner =>
    if (Text.trim inner).isEmpty then line.fail .blankName else .ok (String.ofList inner)

/-- The function name on its line: an identifier. -/
def readFunctionName (line : LabelledLine) : Except ParseError String :=
  if line.value.isEmpty then line.fail .missingFunctionName
  else if Text.isIdentifier line.value.toList then .ok line.value
  else line.fail (.invalidFunctionName line.value)

/-- The type that `source` denotes, as part of a line with the given number and label text. -/
def readFieldType (source : List Char) (line : Nat) (field : String) :
    Except ParseError ValueType :=
  match TypeExpr.parse source with
  | .ok type => .ok type
  | .error error => .error ⟨some line, field, .badType (String.ofList source) error⟩

/-- The parameter on a line, a name and a type expression, with the given position. -/
def readParameter (order : Nat) (line : LabelledLine) : Except ParseError Parameter :=
  match Text.splitFirstWord line.value.toList with
  | (name, source) =>
    if name.isEmpty then line.fail .missingParameter
    else if !Text.isIdentifier name then line.fail (.invalidParameterName (String.ofList name))
    else if source.isEmpty then line.fail (.missingType (String.ofList name))
    else do
      let type ← readFieldType source line.line line.label.text
      return ⟨String.ofList name, type, order⟩

/-- The parameters on the lines, behind those read `earlier`. No name may come twice. -/
def readParametersAfter (earlier : List Parameter) :
    List LabelledLine → Except ParseError (List Parameter)
  | [] => .ok earlier
  | line :: rest => do
    let parameter ← readParameter earlier.length line
    if earlier.any (·.name == parameter.name) then line.fail (.duplicateParameter parameter.name)
    else readParametersAfter (earlier ++ [parameter]) rest

/-- The returned value on its line: a type expression, with or without a name in front. -/
def readOutput (line : LabelledLine) : Except ParseError (Option String × ValueType) :=
  let value := line.value.toList
  match TypeExpr.parse value with
  | .ok type => .ok (none, type)
  | .error error =>
    match Text.splitFirstWord value with
    | (name, source) =>
      if source.isEmpty || (Keyword.ofWord? name).isSome || !Text.isIdentifier name then
        line.fail (.badType line.value error)
      else do
        let type ← readFieldType source line.line line.label.text
        return (some (String.ofList name), type)

/-! ## The name of the returned value -/

/-- The first name that is not taken among `name` and those that arise from it by adding up to
`extra` underscores. -/
def freeName (taken : List String) : (extra : Nat) → (name : String) → String
  | 0, name => name
  | extra + 1, name => if taken.contains name then freeName taken extra (name ++ "_") else name

/-- The name of a returned value that the document leaves unnamed. As many underscores as there are
names taken are always enough: the candidates are one more, and all different. -/
def defaultOutputName (taken : List String) : String :=
  freeName taken taken.length "result"

/-- The name of the returned value, the declared one if there is one. -/
def outputNameFor (line : LabelledLine) (taken : List String) :
    Option String → Except ParseError String
  | some name => if taken.contains name then line.fail (.outputNameTaken name) else .ok name
  | none => .ok (defaultOutputName taken)

/-! ## The whole problem -/

/-- The problem declared by the labelled lines. A program needs at least one parameter. -/
def ofLines (mode : Mode) (lines : List LabelledLine) : Except ParseError Problem := do
  let name ← readName (← onlyLine .problemName lines)
  let functionName ← readFunctionName (← onlyLine .functionName lines)
  let parameters ← readParametersAfter [] (lines.filter (·.label == .inputField))
  if mode = .program ∧ parameters = [] then Label.inputField.fail .noParameter
  else
    let output ← onlyLine .outputField lines
    let (declaredName, returnType) ← readOutput output
    let outputName ← outputNameFor output (parameters.map (·.name)) declaredName
    return ⟨name, functionName, parameters, returnType, outputName⟩

/-- The problem that a document declares. -/
def parse (text : String) : Except ParseError Problem :=
  ofLines .stub (Document.labelledLines text)

end Problem

namespace LaidOutProblem

/-! ## Layouts -/

/-- The input layout of that spelling. -/
def inputLayout? : String → Option InputLayout
  | "counted" => some .counted
  | "line" => some .line
  | _ => none

/-- The output layout of that spelling. -/
def outputLayout? : String → Option OutputLayout
  | "line" => some .line
  | "lines" => some .lines
  | _ => none

/-- Whether values of the type can be read in the layout. -/
def fitsInput (type : ValueType) : InputLayout → Bool
  | .counted => true
  | .line => type.element?.any ValueType.isScalar

/-- Whether values of the type can be written in the layout. -/
def fitsOutput (type : ValueType) : OutputLayout → Bool
  | .line => true
  | .lines => type.isArray

/-- The parameter and the layout that a line names, where the layouts `given` are known already. -/
def readInputLayout (problem : Problem) (given : List (String × InputLayout))
    (line : LabelledLine) : Except ParseError (String × InputLayout) :=
  match (Text.words line.value.toList).map String.ofList with
  | [name, word] =>
    match problem.parameter? name with
    | none => line.fail (.unknownParameter name)
    | some parameter =>
      match inputLayout? word with
      | none => line.fail (.unknownInputLayout word)
      | some layout =>
        if !fitsInput parameter.type layout then line.fail (.unfitInputLayout name parameter.type)
        else if (given.lookup name).isSome then line.fail (.repeatedInputLayout name)
        else .ok (name, layout)
  | _ => line.fail (.malformedLayout line.value)

/-- The layouts on the lines, behind those `given` before them. -/
def readInputLayoutsAfter (problem : Problem) (given : List (String × InputLayout)) :
    List LabelledLine → Except ParseError (List (String × InputLayout))
  | [] => .ok given
  | line :: rest => do
    let layout ← readInputLayout problem given line
    readInputLayoutsAfter problem (given ++ [layout]) rest

/-- The parameters of the problem, each with the layout the lines give it, `counted` if none. -/
def readInputs (problem : Problem) (lines : List LabelledLine) :
    Except ParseError (List Input) := do
  let given ← readInputLayoutsAfter problem [] (lines.filter (·.label == .inputFormat))
  return problem.parameters.map fun parameter =>
    ⟨parameter, (given.lookup parameter.name).getD .counted⟩

/-- The layout of the returned value, `line` if no line gives one. -/
def readOutputLayout (problem : Problem) (lines : List LabelledLine) :
    Except ParseError OutputLayout :=
  match lines.filter (·.label == .outputFormat) with
  | [] => .ok .line
  | [line] =>
    match outputLayout? line.value with
    | none => line.fail (.unknownOutputLayout line.value)
    | some layout =>
      if fitsOutput problem.returnType layout then .ok layout
      else line.fail (.unfitOutputLayout problem.returnType)
  | first :: second :: _ => second.fail (.repeated .outputFormat first.line)

/-! ## The whole -/

/-- The problem and the layouts declared by the labelled lines. -/
def ofLines (lines : List LabelledLine) : Except ParseError LaidOutProblem := do
  let problem ← Problem.ofLines .program lines
  let inputs ← readInputs problem lines
  let outputLayout ← readOutputLayout problem lines
  return ⟨problem, inputs, outputLayout⟩

/-- The problem and the layouts that a document declares. -/
def parse (text : String) : Except ParseError LaidOutProblem :=
  ofLines (Document.labelledLines text)

end LaidOutProblem

end StarterCode
