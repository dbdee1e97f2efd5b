import StarterCode.TypeExpr.Keyword
import StarterCode.TypeExpr.Token

/-!
# Reading type expressions

The grammar, over the tokens of `StarterCode.TypeExpr.Token`:

    type    := primary "[]"*
    primary := scalar
             | sequence ("of" type | "<" type ">")
             | pair     ("of" type "and" type | "<" type "," type ">")
             | tuple    ("of" type ("," type)* (","? "and" type)? | "<" type ("," type)* ">")
             | name

A tuple must have two components at least, and a name is an identifier that is no keyword and no
connective.

Nesting is bounded by `maxNesting` levels, the suffixes of a type counted on top of the level at
which the type stands. The bound is what the recursion runs on: `readType` takes the number of
levels that are left and passes one fewer to everything inside. The rules of the grammar are
written over an arbitrary reader `nested` for the types inside, so each is an ordinary function
and the tie between them is made in one place. Only the list of components of a tuple is of
unbounded length; its loop spends one token on each comma and so counts down the tokens.
-/

set_option autoImplicit false

namespace StarterCode

namespace TypeExpr

/-- The deepest nesting accepted, the `[]` suffixes of a type included. -/
def maxNesting : Nat := 64

/-- Reads something off the front of the tokens and answers with the tokens behind it. -/
abbrev Reader (α : Type) := List Token → Except TypeError (α × List Token)

/-! ## Single tokens -/

/-- The error of a place that wants something else than the tokens at hand. -/
def refuse {α : Type} (wanted : Expected) : List Token → Except TypeError α
  | [] => .error (.unfinished wanted)
  | found :: _ => .error (.unexpected wanted found)

/-- The tokens behind the sign `token`, which must come first. -/
def skipSign (token : Token) (tokens : List Token) : Except TypeError (List Token) :=
  match tokens with
  | found :: rest => if found = token then .ok rest else refuse (.token token) tokens
  | [] => refuse (.token token) tokens

/-- The tokens behind the connective, if it comes first. -/
def connective? (connective : Keyword.Connective) : List Token → Option (List Token)
  | .word letters :: rest => if connective.matches letters then some rest else none
  | _ => none

/-- The tokens behind the connective, which must come first. -/
def skipConnective (connective : Keyword.Connective) (tokens : List Token) :
    Except TypeError (List Token) :=
  match connective? connective tokens with
  | some rest => .ok rest
  | none => refuse (.connective connective.word) tokens

/-! ## The rules, over a reader for the types inside -/

/-- `sequence ("of" type | "<" type ">")` behind its keyword. -/
def readSequence (nested : Reader ValueType) : Reader ValueType
  | .leftAngle :: rest => do
    let (element, rest) ← nested rest
    let rest ← skipSign .rightAngle rest
    return (.array element, rest)
  | tokens => do
    let rest ← skipConnective .of tokens
    let (element, rest) ← nested rest
    return (.array element, rest)

/-- `pair ("of" type "and" type | "<" type "," type ">")` behind its keyword. -/
def readPair (nested : Reader ValueType) : Reader ValueType
  | .leftAngle :: rest => do
    let (first, rest) ← nested rest
    let rest ← skipSign .comma rest
    let (second, rest) ← nested rest
    let rest ← skipSign .rightAngle rest
    return (.pair first second, rest)
  | tokens => do
    let rest ← skipConnective .of tokens
    let (first, rest) ← nested rest
    let rest ← skipConnective .and rest
    let (second, rest) ← nested rest
    return (.pair first second, rest)

/-- `("," type)*` between angle brackets. The first argument bounds the number of commas. -/
def readAngleComponents (nested : Reader ValueType) : Nat → Reader (List ValueType)
  | commas + 1, .comma :: rest => do
    let (component, rest) ← nested rest
    let (components, rest) ← readAngleComponents nested commas rest
    return (component :: components, rest)
  | _, tokens => .ok ([], tokens)

/-- `("," type)* (","? "and" type)?` behind `of` and the first component. A comma in front of `and`
belongs to the connective. The first argument bounds the number of commas. -/
def readListedComponents (nested : Reader ValueType) : Nat → Reader (List ValueType)
  | commas + 1, .comma :: rest =>
    match connective? .and rest with
    | some rest => do
      let (component, rest) ← nested rest
      return ([component], rest)
    | none => do
      let (component, rest) ← nested rest
      let (components, rest) ← readListedComponents nested commas rest
      return (component :: components, rest)
  | _, tokens =>
    match connective? .and tokens with
    | some rest => do
      let (component, rest) ← nested rest
      return ([component], rest)
    | none => .ok ([], tokens)

/-- The components of a tuple behind its keyword, in either form. -/
def readComponents (nested : Reader ValueType) : Reader (List ValueType)
  | .leftAngle :: rest => do
    let (first, rest) ← nested rest
    let (others, rest) ← readAngleComponents nested rest.length rest
    let rest ← skipSign .rightAngle rest
    return (first :: others, rest)
  | tokens => do
    let rest ← skipConnective .of tokens
    let (first, rest) ← nested rest
    let (others, rest) ← readListedComponents nested rest.length rest
    return (first :: others, rest)

/-- A tuple behind its keyword. -/
def readTuple (nested : Reader ValueType) : Reader ValueType := fun tokens => do
  let (components, rest) ← readComponents nested tokens
  if components.length < 2 then .error .shortTuple
  else return (.tuple components, rest)

/-- A type without its suffixes. -/
def readPrimary (nested : Reader ValueType) : Reader ValueType
  | .word letters :: rest =>
    match Keyword.ofWord? letters with
    | some (.scalar type) => .ok (type, rest)
    | some .sequence => readSequence nested rest
    | some .pair => readPair nested rest
    | some .tuple => readTuple nested rest
    | none =>
      if Keyword.isConnective letters then .error (.unexpected .type (.word letters))
      else if Text.isIdentifier letters then .ok (.custom (String.ofList letters), rest)
      else .error (.notTypeName letters)
  | tokens => refuse .type tokens

/-- The suffixes `[]` behind a type, at most `room` of them. -/
def readSuffixes (type : ValueType) (room : Nat) : Reader ValueType
  | .brackets :: rest =>
    match room with
    | 0 => .error (.tooDeep maxNesting)
    | room + 1 => readSuffixes (.array type) room rest
  | tokens => .ok (type, tokens)

/-! ## Tying the knot -/

/-- A type of which `levels` levels may be used: one by the type itself, the others by what stands
inside it and by its suffixes. -/
def readType : (levels : Nat) → Reader ValueType
  | 0 => fun _ => .error (.tooDeep maxNesting)
  | levels + 1 => fun tokens => do
    let (type, rest) ← readPrimary (readType levels) tokens
    readSuffixes type levels rest

/-- The type that a whole list of tokens denotes. -/
def ofTokens (tokens : List Token) : Except TypeError ValueType :=
  if tokens.isEmpty then .error .empty
  else do
    match ← readType maxNesting tokens with
    | (type, []) => return type
    | (type, extra :: _) => .error (.trailing extra type)

/-- The type that a text denotes. -/
def parse (text : List Char) : Except TypeError ValueType := do
  ofTokens (← Token.scan text)

example : (parse "Tuple of ints, Node[], and list<str>".toList).toOption =
    some (.tuple [.integer, .array (.custom "Node"), .array .string]) := by decide +kernel

end TypeExpr

end StarterCode
