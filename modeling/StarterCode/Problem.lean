import StarterCode.ValueType

/-!
# Problems

A `Problem` is what a solver's function looks like from outside: its name, its parameters in
order, what it returns. A `LaidOutProblem` adds how test files hold the values, which is what a
whole program needs to read and write them.

Nothing here restricts the names or the numbering of the parameters. The documents that are read
give identifiers, all different, numbered from zero; data given directly may hold anything.
-/

set_option autoImplicit false

namespace StarterCode

/-- A declared parameter. -/
structure Parameter where
  /-- The name as declared. -/
  name : String
  /-- The type of its values. -/
  type : ValueType
  /-- The position among the parameters, counted from 0. -/
  order : Nat
deriving DecidableEq

/-- The outside of a function to be written. -/
structure Problem where
  /-- The name of the problem, for comments. -/
  name : String
  /-- The name of the function. -/
  functionName : String
  /-- The parameters in order of declaration. -/
  parameters : List Parameter
  /-- The type of the returned value. -/
  returnType : ValueType
  /-- A name for the returned value. -/
  outputName : String
deriving DecidableEq

/-- The parameter of the given name, the first one if several have it. -/
def Problem.parameter? (problem : Problem) (name : String) : Option Parameter :=
  problem.parameters.find? (·.name == name)

/-- The types of the parameters and of the returned value. -/
def Problem.types (problem : Problem) : List ValueType :=
  problem.parameters.map (·.type) ++ [problem.returnType]

/-- Every type that occurs in the problem, at any depth. -/
def Problem.nestedTypes (problem : Problem) : List ValueType :=
  problem.types.flatMap ValueType.walk

/-- How the value of a parameter stands in a test file. -/
inductive InputLayout where
  /-- A scalar is one word, an array begins with its length. -/
  | counted
  /-- An array of scalars is all that stands on one line. -/
  | line
deriving DecidableEq

/-- The layout as documents and data spell it. -/
def InputLayout.text : InputLayout → String
  | .counted => "counted"
  | .line => "line"

/-- How the returned value stands in a test file. -/
inductive OutputLayout where
  /-- The value is on one line. -/
  | line
  /-- Each element of an array is on a line of its own. -/
  | lines
deriving DecidableEq

/-- The layout as documents and data spell it. -/
def OutputLayout.text : OutputLayout → String
  | .line => "line"
  | .lines => "lines"

/-- A parameter and its layout. -/
structure Input where
  /-- The parameter. -/
  parameter : Parameter
  /-- How its value is read. -/
  layout : InputLayout
deriving DecidableEq

/-- A problem with the layout of its test files. -/
structure LaidOutProblem where
  /-- The problem. -/
  problem : Problem
  /-- What is read, in order. -/
  inputs : List Input
  /-- How the returned value is written. -/
  outputLayout : OutputLayout
deriving DecidableEq

/-- How much starter code is wanted. -/
inductive Mode where
  /-- The function alone, with an empty body. -/
  | stub
  /-- A program that reads the parameters, calls the function and writes what it returns. -/
  | program
deriving DecidableEq

end StarterCode
