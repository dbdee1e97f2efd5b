import StarterCode.ValueType

/-!
# Keywords of type expressions

Each kind of type has several surface words, singular and plural. They are compared without regard
to ASCII case, so a word is looked up by its small letters in a table that holds small letters only.

`of` and `and` join the parts of an expression. They are not in the table, and they name no type
either.
-/

set_option autoImplicit false

namespace StarterCode

/-- What a keyword asks for. -/
inductive Keyword where
  /-- A type without parts. -/
  | scalar (type : ValueType)
  /-- An array of what follows. -/
  | sequence
  /-- A tuple of exactly two components. -/
  | pair
  /-- A tuple of two or more components. -/
  | tuple
deriving DecidableEq

namespace Keyword

/-- The surface words of each keyword. -/
def surfaces : List (String × Keyword) := [
  ("integer", .scalar .integer), ("integers", .scalar .integer), ("int", .scalar .integer),
  ("ints", .scalar .integer), ("long", .scalar .integer),
  ("float", .scalar .float), ("floats", .scalar .float), ("double", .scalar .float),
  ("doubles", .scalar .float), ("number", .scalar .float), ("numbers", .scalar .float),
  ("decimal", .scalar .float),
  ("boolean", .scalar .boolean), ("booleans", .scalar .boolean), ("bool", .scalar .boolean),
  ("bools", .scalar .boolean),
  ("string", .scalar .string), ("strings", .scalar .string), ("str", .scalar .string),
  ("text", .scalar .string), ("char", .scalar .string),
  ("array", .sequence), ("arrays", .sequence), ("list", .sequence), ("lists", .sequence),
  ("vector", .sequence), ("vectors", .sequence),
  ("pair", .pair), ("pairs", .pair),
  ("tuple", .tuple), ("tuples", .tuple)]

/-- The word in ASCII small letters. -/
def fold (word : List Char) : List Char :=
  word.map Char.toLower

/-- The keyword that a word stands for, in any letter case. -/
def ofWord? (word : List Char) : Option Keyword :=
  surfaces.lookup (String.ofList (fold word))

/-- The words that join the parts of a type expression. -/
inductive Connective where
  /-- Before the parts. -/
  | of
  /-- Before the last part. -/
  | and
deriving DecidableEq

/-- The connective as it is written. -/
def Connective.word : Connective → String
  | .of => "of"
  | .and => "and"

/-- Whether the word is the connective, in any letter case. -/
def Connective.matches (connective : Connective) (word : List Char) : Bool :=
  fold word == connective.word.toList

/-- Whether the word is a connective, in any letter case. -/
def isConnective (word : List Char) : Bool :=
  Connective.of.matches word || Connective.and.matches word

end Keyword

end StarterCode
