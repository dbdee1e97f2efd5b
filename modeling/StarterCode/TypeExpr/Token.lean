import StarterCode.Text.Blank
import StarterCode.Text.Identifier
import StarterCode.ValueType

/-!
# Tokens of type expressions

A type expression is made of words, commas, angle brackets and the array suffix `[]`. `Token.scan`
cuts a text into them from left to right; blanks separate and are dropped.

The scan recurses on the characters and carries the word it is in the middle of, its last letter
first. A character that cannot continue that word completes it, so a word is always as long as it
can be.

`TypeError` lists the ways in which a text can fail to be a type expression, for the scan and for
the grammar alike, with their wording in `TypeError.message`.
-/

set_option autoImplicit false

namespace StarterCode

/-- The smallest part of a type expression. -/
inductive Token where
  /-- A longest run of name characters. -/
  | word (letters : List Char)
  /-- The sign `,`. -/
  | comma
  /-- The sign `<`. -/
  | leftAngle
  /-- The sign `>`. -/
  | rightAngle
  /-- The signs `[]`. -/
  | brackets
deriving DecidableEq

/-- The token in quotes, as messages show it. -/
def Token.quoted : Token → String
  | .word letters => "'" ++ String.ofList letters ++ "'"
  | .comma => "','"
  | .leftAngle => "'<'"
  | .rightAngle => "'>'"
  | .brackets => "'[]'"

/-- What the grammar asks for at one place. -/
inductive Expected where
  /-- The beginning of a type. -/
  | type
  /-- One of the connectives, as it is written. -/
  | connective (word : String)
  /-- One particular sign. -/
  | token (token : Token)
deriving DecidableEq

/-- The expectation as messages show it. -/
def Expected.text : Expected → String
  | .type => "a type"
  | .connective word => "'" ++ word ++ "'"
  | .token t => t.quoted

/-- Why a text is not a type expression. -/
inductive TypeError where
  /-- A bracket without its partner directly behind it. -/
  | looseBracket
  /-- A character that no token contains. -/
  | strayChar (c : Char)
  /-- There is no token at all. -/
  | empty
  /-- Another token stands where something was needed. -/
  | unexpected (wanted : Expected) (found : Token)
  /-- The text ends where something was needed. -/
  | unfinished (wanted : Expected)
  /-- A word that can neither be a keyword nor a name. -/
  | notTypeName (letters : List Char)
  /-- A tuple of one component. -/
  | shortTuple
  /-- A complete type has a further token behind it. -/
  | trailing (token : Token) (type : ValueType)
  /-- The nesting exceeds the given number of levels. -/
  | tooDeep (limit : Nat)

/-- The wording of an error in the text `source`. -/
def TypeError.message (source : String) : TypeError → String
  | .looseBracket => "'[' must be followed by ']'"
  | .strayChar c => "unexpected character '" ++ String.singleton c ++ "'"
  | .empty => "missing type expression"
  | .unexpected wanted found =>
    "expected " ++ wanted.text ++ " but found " ++ found.quoted ++ " in '" ++ source ++ "'"
  | .unfinished wanted => "expected " ++ wanted.text ++ " at end of '" ++ source ++ "'"
  | .notTypeName letters =>
    "'" ++ String.ofList letters ++ "' is not a type name in '" ++ source ++ "'"
  | .shortTuple => "a tuple needs at least two components in '" ++ source ++ "'"
  | .trailing token type =>
    "unexpected " ++ token.quoted ++ " after '" ++ type.text ++ "' in '" ++ source ++ "'"
  | .tooDeep limit => s!"type is nested more than {limit} levels deep"

namespace Token

/-- The word token of the letters collected so far, if there are any. The last one comes first. -/
def completed (letters : List Char) : List Token :=
  if letters.isEmpty then [] else [.word letters.reverse]

/-- Scans the text behind the beginning of a word, whose letters are given from the last to the
first. -/
def scanAfter (letters : List Char) : List Char → Except TypeError (List Token)
  | [] => .ok (completed letters)
  | '[' :: ']' :: rest => return completed letters ++ .brackets :: (← scanAfter [] rest)
  | c :: rest =>
    if Text.isNameChar c then scanAfter (c :: letters) rest
    else if Text.isBlank c then return completed letters ++ (← scanAfter [] rest)
    else if c = ',' then return completed letters ++ .comma :: (← scanAfter [] rest)
    else if c = '<' then return completed letters ++ .leftAngle :: (← scanAfter [] rest)
    else if c = '>' then return completed letters ++ .rightAngle :: (← scanAfter [] rest)
    else if c = '[' then .error .looseBracket
    else .error (.strayChar c)

/-- The tokens of a text. -/
def scan (text : List Char) : Except TypeError (List Token) :=
  scanAfter [] text

example : (scan "pair<int ,x[]>".toList).toOption =
    some [.word "pair".toList, .leftAngle, .word "int".toList, .comma, .word "x".toList, .brackets,
      .rightAngle] := by decide

end Token

end StarterCode
