import StarterCode.Language
import StarterCode.Text.Search
import StarterCode.ValueType

/-!
# Spelling types

A language spells every kind of type in one way: a word for each scalar and a template for each
way of putting types together. `Spelling` is that table, and `Spelling.spell?` is the one walk
that serves all tables: spell the parts, join them, put them into the slot of the template.

The walk fails exactly at the custom names that the table does not know. `Spelling.spellFor` turns
that failure into an `EmissionError`, which names the first custom name of the type, whether or not
the table knows that one.
-/

set_option autoImplicit false

namespace StarterCode

/-! ## What cannot be emitted -/

/-- Something that a language cannot express. -/
inductive Unemittable where
  /-- A type without a spelling. -/
  | unspelled (text : String)
  /-- A name that the language or the code round it reserves. -/
  | reservedWord (name : String)
  /-- The name of a parameter, in use already. -/
  | parameterName (name : String)
  /-- The name of the returned value, in use already. -/
  | outputName (name : String)
  /-- An input of a type that is not read from one line. -/
  | lineLayout (type : ValueType)

/-- The thing as messages name it. -/
def Unemittable.text : Unemittable → String
  | .unspelled text => "type '" ++ text ++ "'"
  | .reservedWord name => "reserved word '" ++ name ++ "'"
  | .parameterName name => "parameter name '" ++ name ++ "'"
  | .outputName name => "output name '" ++ name ++ "'"
  | .lineLayout type => "line layout of " ++ type.text

/-- A problem cannot be expressed in a language. -/
structure EmissionError where
  /-- The language. -/
  language : Language
  /-- What it cannot express. -/
  item : Unemittable
  /-- The part of the problem this is about. -/
  context : String

/-- The wording of the error. -/
def EmissionError.text (error : EmissionError) : String :=
  error.language.text ++ ": cannot emit " ++ error.item.text ++ " for " ++ error.context

/-! ## Tables -/

/-- The place of a template at which the parts go. -/
def slot : String := "\x7b\x7d"

/-- How a language spells types. The templates hold one `slot`. -/
structure Spelling where
  /-- The language. -/
  language : Language
  /-- The word for whole numbers. -/
  integer : String
  /-- The word for numbers with a fractional part. -/
  float : String
  /-- The word for truth values. -/
  boolean : String
  /-- The word for texts. -/
  string : String
  /-- The template of arrays. -/
  array : String
  /-- The template of tuples of two components. -/
  pair : String
  /-- The template of all other tuples. -/
  tuple : String
  /-- What stands between components. -/
  separator : String
  /-- Custom names and their spellings. -/
  custom : List (String × String)

namespace Spelling

/-- The template with `inner` in its first slot. -/
def fill (template inner : String) : String :=
  String.ofList (Text.replaceFirst '\x7b' '\x7d' inner.toList template.toList)

/-- The template for a tuple of `arity` components. -/
def tupleTemplate (spelling : Spelling) (arity : Nat) : String :=
  if arity = 2 then spelling.pair else spelling.tuple

mutual

/-- The spelling of a type, if every custom name in it has one. -/
def spell? (spelling : Spelling) : ValueType → Option String
  | .integer => some spelling.integer
  | .float => some spelling.float
  | .boolean => some spelling.boolean
  | .string => some spelling.string
  | .array element => (spelling.spell? element).map (fill spelling.array)
  | .tuple components =>
    (spelling.spellAll? components).map fun parts =>
      fill (spelling.tupleTemplate components.length) (spelling.separator.intercalate parts)
  | .custom name => spelling.custom.lookup name

/-- The spellings of several types, if all have one. -/
def spellAll? (spelling : Spelling) : List ValueType → Option (List String)
  | [] => some []
  | type :: types => do
    let first ← spelling.spell? type
    let others ← spelling.spellAll? types
    return first :: others

end

/-- The spelling of a type that is used in `context`. -/
def spellFor (spelling : Spelling) (type : ValueType) (context : String) :
    Except EmissionError String :=
  match spelling.spell? type with
  | some spelled => .ok spelled
  | none => .error ⟨spelling.language, .unspelled (type.findCustom?.getD type.text), context⟩

end Spelling

/-- Fails if the name is reserved. -/
def checkIdentifier (language : Language) (reserved : List String) (name context : String) :
    Except EmissionError Unit :=
  if reserved.contains name then .error ⟨language, .reservedWord name, context⟩ else .ok ()

end StarterCode
