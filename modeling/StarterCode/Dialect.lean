import StarterCode.Problem
import StarterCode.Spelling

/-!
# Headers

The `Header` of a problem in some language is everything that a signature needs: each name as the
language writes names and each type as it spells types. A `Dialect` is what has to be known of the
language for that, its spelling of types, its reserved words and its way of writing names.

Making a header is where names meet. Names that differ in the document may be equal once they are
written the language's way, so the checks are made on the written names: no reserved word, and the
function, the parameters and the returned value all different. The first failure in order of
declaration is reported.
-/

set_option autoImplicit false

namespace StarterCode

/-- A name and the spelling of its type. -/
structure Variable where
  /-- The name as it is written. -/
  name : String
  /-- The type as it is spelled. -/
  type : String
deriving DecidableEq

/-- The names and types of a problem as a language writes them. -/
structure Header where
  /-- The function. -/
  functionName : String
  /-- The parameters in order of declaration. -/
  parameters : List Variable
  /-- The spelling of the return type. -/
  returnType : String
  /-- The returned value. -/
  outputName : String
deriving DecidableEq

/-- The names of the parameters in order, as a list of arguments. -/
def Header.arguments (header : Header) : String :=
  ", ".intercalate (header.parameters.map (·.name))

/-- What a language lays down about names and types. -/
structure Dialect where
  /-- Its spelling of types. -/
  spelling : Spelling
  /-- The words that no name may be: keywords, and names in the code round the function. -/
  reserved : List String
  /-- Its way of writing a name. -/
  rename : String → String

namespace Dialect

/-- The part of a problem that a parameter is, in messages. -/
def parameterContext (parameter : Parameter) : String :=
  "parameter '" ++ parameter.name ++ "'"

/-- Fails with something that the language cannot express. -/
def fail {α : Type} (dialect : Dialect) (item : Unemittable) (context : String) :
    Except EmissionError α :=
  .error ⟨dialect.spelling.language, item, context⟩

/-- The parameter as a variable behind those made `earlier`, in a function of the given name. -/
def parameterVariable (dialect : Dialect) (functionName : String) (earlier : List Variable)
    (parameter : Parameter) : Except EmissionError Variable := do
  let context := parameterContext parameter
  let name := dialect.rename parameter.name
  checkIdentifier dialect.spelling.language dialect.reserved name context
  if name = functionName then
    dialect.fail (.parameterName name) (context ++ " (same as the function name)")
  else if earlier.any (·.name == name) then
    dialect.fail (.parameterName name) (context ++ " (clashes after renaming)")
  else
    let type ← dialect.spelling.spellFor parameter.type context
    return ⟨name, type⟩

/-- The parameters as variables behind those made `earlier`. -/
def parameterVariablesAfter (dialect : Dialect) (functionName : String) (earlier : List Variable) :
    List Parameter → Except EmissionError (List Variable)
  | [] => .ok earlier
  | parameter :: rest => do
    let written ← dialect.parameterVariable functionName earlier parameter
    dialect.parameterVariablesAfter functionName (earlier ++ [written]) rest

/-- The names and types of the problem in this dialect. -/
def header (dialect : Dialect) (problem : Problem) : Except EmissionError Header := do
  let functionName := dialect.rename problem.functionName
  checkIdentifier dialect.spelling.language dialect.reserved functionName "function name"
  let parameters ← dialect.parameterVariablesAfter functionName [] problem.parameters
  let outputName := dialect.rename problem.outputName
  checkIdentifier dialect.spelling.language dialect.reserved outputName "return value"
  if parameters.any (·.name == outputName) || outputName == functionName then
    dialect.fail (.outputName outputName) "return value (clashes after renaming)"
  else
    let returnType ← dialect.spelling.spellFor problem.returnType "return value"
    return ⟨functionName, parameters, returnType, outputName⟩

end Dialect

end StarterCode
