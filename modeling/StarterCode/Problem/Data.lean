import StarterCode.Json
import StarterCode.Language
import StarterCode.Problem

/-!
# Problems as JSON

Every part of a problem has one JSON form, written by `toJson` and read by `ofJson?`.

A record is an object with one member for each field. A type is an object with the member `kind`,
the name of the constructor, and, where the constructor has content, the member `of`. Reading is
more generous than writing: unknown members are ignored, a record may be a list of its fields, and
a type may be a list of the name of its kind and its content. A kind without content admits `null`
as its content, and in an object the kind may itself be an object with the name as its only member.

A type is read by recursion on its form. The content of an object is found by going through its
members, so that what is read next is visibly a part of what was there.
-/

set_option autoImplicit false

namespace StarterCode

/-! ## Types -/

namespace ValueType

mutual

/-- The JSON form of a type. -/
def toJson : ValueType → Json
  | .integer => .object [("kind", .string "integer")]
  | .float => .object [("kind", .string "float")]
  | .boolean => .object [("kind", .string "boolean")]
  | .string => .object [("kind", .string "string")]
  | .array element => .object [("kind", .string "array"), ("of", element.toJson)]
  | .tuple components => .object [("kind", .string "tuple"), ("of", .array (toJsonAll components))]
  | .custom name => .object [("kind", .string "custom"), ("of", .string name)]

/-- The JSON forms of several types. -/
def toJsonAll : List ValueType → List Json
  | [] => []
  | type :: types => type.toJson :: toJsonAll types

end

/-- What a kind stands for before its content is known. -/
inductive Kind where
  /-- A type without content. -/
  | scalar (type : ValueType)
  /-- An array, with the type of its elements for content. -/
  | array
  /-- A tuple, with the list of its components for content. -/
  | tuple
  /-- A custom type, with its name for content. -/
  | custom

/-- The kind of the given name. -/
def Kind.ofName? : String → Option Kind
  | "integer" => some (.scalar .integer)
  | "float" => some (.scalar .float)
  | "boolean" => some (.scalar .boolean)
  | "string" => some (.scalar .string)
  | "array" => some .array
  | "tuple" => some .tuple
  | "custom" => some .custom
  | _ => none

/-- The kind that a JSON value names. -/
def Kind.ofJson? (value : Json) : Option Kind := do
  Kind.ofName? (← value.caseName?)

/-- The type of a kind that comes without content. -/
def Kind.alone? : Kind → Option ValueType
  | .scalar type => some type
  | _ => none

mutual

/-- The type whose JSON form is given. -/
def ofJson? : Json → Option ValueType
  | .object members =>
    match (members.lookup "kind").bind Kind.ofJson? with
    | some kind => ofMembers? kind members
    | none => none
  | .array [kindForm, content] =>
    match kindForm.string?.bind Kind.ofName? with
    | some (.scalar type) =>
      match content with
      | .null => some type
      | _ => none
    | some .array => (ofJson? content).map .array
    | some .tuple =>
      match content with
      | .array items => (ofJsonAll? items).map .tuple
      | _ => none
    | some .custom => content.string?.map .custom
    | none => none
  | _ => none

/-- The type of the given kind whose content is the member `of`. -/
def ofMembers? (kind : Kind) : List (String × Json) → Option ValueType
  | [] => kind.alone?
  | (name, content) :: members =>
    if name = "of" then
      match kind with
      | .scalar type =>
        match content with
        | .null => some type
        | _ => none
      | .array => (ofJson? content).map .array
      | .tuple =>
        match content with
        | .array items => (ofJsonAll? items).map .tuple
        | _ => none
      | .custom => content.string?.map .custom
    else ofMembers? kind members

/-- The types whose JSON forms are given. -/
def ofJsonAll? : List Json → Option (List ValueType)
  | [] => some []
  | item :: items => do
    let type ← ofJson? item
    let types ← ofJsonAll? items
    return type :: types

end

end ValueType

/-! ## Records -/

namespace Parameter

/-- The JSON form of a parameter. -/
def toJson (parameter : Parameter) : Json :=
  .object [
    ("name", .string parameter.name), ("ty", parameter.type.toJson),
    ("order", .nat parameter.order)]

/-- The parameter whose JSON form is given. -/
def ofJson? (value : Json) : Option Parameter := do
  let [name, type, order] ← value.fields? ["name", "ty", "order"] | none
  return ⟨← name.string?, ← ValueType.ofJson? type, ← order.word64?⟩

end Parameter

namespace Problem

/-- The JSON form of a problem. -/
def toJson (problem : Problem) : Json :=
  .object [
    ("problem_name", .string problem.name), ("function_name", .string problem.functionName),
    ("parameters", .array (problem.parameters.map Parameter.toJson)),
    ("return_type", problem.returnType.toJson), ("output_name", .string problem.outputName)]

/-- The problem whose JSON form is given. -/
def ofJson? (value : Json) : Option Problem := do
  let [name, functionName, parameters, returnType, outputName] ←
    value.fields? ["problem_name", "function_name", "parameters", "return_type", "output_name"]
    | none
  return ⟨← name.string?, ← functionName.string?, ← (← parameters.array?).mapM Parameter.ofJson?,
    ← ValueType.ofJson? returnType, ← outputName.string?⟩

end Problem

/-- The JSON form of an input layout. -/
def InputLayout.toJson (layout : InputLayout) : Json :=
  .string layout.text

/-- The input layout whose JSON form is given. -/
def InputLayout.ofJson? (value : Json) : Option InputLayout := do
  match ← value.caseName? with
  | "counted" => some .counted
  | "line" => some .line
  | _ => none

/-- The JSON form of an output layout. -/
def OutputLayout.toJson (layout : OutputLayout) : Json :=
  .string layout.text

/-- The output layout whose JSON form is given. -/
def OutputLayout.ofJson? (value : Json) : Option OutputLayout := do
  match ← value.caseName? with
  | "line" => some .line
  | "lines" => some .lines
  | _ => none

namespace Input

/-- The JSON form of an input. -/
def toJson (input : Input) : Json :=
  .object [("parameter", input.parameter.toJson), ("layout", input.layout.toJson)]

/-- The input whose JSON form is given. -/
def ofJson? (value : Json) : Option Input := do
  let [parameter, layout] ← value.fields? ["parameter", "layout"] | none
  return ⟨← Parameter.ofJson? parameter, ← InputLayout.ofJson? layout⟩

end Input

namespace LaidOutProblem

/-- The JSON form of a problem with layouts. -/
def toJson (laidOut : LaidOutProblem) : Json :=
  .object [
    ("definition", laidOut.problem.toJson), ("inputs", .array (laidOut.inputs.map Input.toJson)),
    ("output_layout", laidOut.outputLayout.toJson)]

/-- The problem with layouts whose JSON form is given. -/
def ofJson? (value : Json) : Option LaidOutProblem := do
  let [problem, inputs, outputLayout] ←
    value.fields? ["definition", "inputs", "output_layout"] | none
  return ⟨← Problem.ofJson? problem, ← (← inputs.array?).mapM Input.ofJson?,
    ← OutputLayout.ofJson? outputLayout⟩

end LaidOutProblem

/-- The JSON form of a language. -/
def Language.toJson (language : Language) : Json :=
  .string language.text

/-- The language whose JSON form is given. -/
def Language.ofJson? (value : Json) : Option Language := do
  match ← value.caseName? with
  | "cpp" => some .cpp
  | "javascript" => some .javaScript
  | "rust" => some .rust
  | _ => none

end StarterCode
