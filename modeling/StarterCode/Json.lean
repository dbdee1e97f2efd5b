import StarterCode.Text.Hex

/-!
# JSON values

The values that reports are made of and that data is read from. The members of an object keep their
order, which is the order in which they are written.

`pretty` writes a value over several lines, two blanks to a level, with an empty list or object on
one line. In a string only the quote, the backslash and the control characters below `U+0020` are
escaped, five of the latter by a letter and the others by four hexadecimal digits.
-/

set_option autoImplicit false

namespace StarterCode

/-- A JSON value. -/
inductive Json where
  /-- The value `null`. -/
  | null
  /-- A truth value. -/
  | bool (value : Bool)
  /-- A natural number. -/
  | nat (value : Nat)
  /-- Any other number, as it is written. -/
  | number (text : String)
  /-- A text. -/
  | string (text : String)
  /-- A list of values. -/
  | array (items : List Json)
  /-- Named values in order. -/
  | object (members : List (String × Json))
deriving Inhabited

namespace Json

/-! ## Strings -/

/-- A character as it stands in a string. -/
def escape (c : Char) : List Char :=
  match c with
  | '"' => ['\\', '"']
  | '\\' => ['\\', '\\']
  | '\x08' => ['\\', 'b']
  | '\t' => ['\\', 't']
  | '\n' => ['\\', 'n']
  | '\x0c' => ['\\', 'f']
  | '\r' => ['\\', 'r']
  | c => if c.toNat < 0x20 then '\\' :: 'u' :: Text.hex 4 c.toNat else [c]

/-- The text as a string, in quotes. -/
def quoted (text : String) : String :=
  String.ofList ('"' :: text.toList.flatMap escape ++ ['"'])

/-! ## Values -/

/-- A line end with the indentation of a level behind it. -/
def newLine (level : Nat) : String :=
  String.ofList ('\n' :: List.replicate (2 * level) ' ')

mutual

/-- The value, on the given level. -/
def prettyAt (level : Nat) : Json → String
  | .null => "null"
  | .bool true => "true"
  | .bool false => "false"
  | .nat value => toString value
  | .number text => text
  | .string text => quoted text
  | .array [] => "[]"
  | .array (item :: items) =>
    "[" ++ newLine (level + 1) ++ prettyAt (level + 1) item ++ prettyItems (level + 1) items ++
      newLine level ++ "]"
  | .object [] => "\x7b\x7d"
  | .object ((name, value) :: members) =>
    "\x7b" ++ newLine (level + 1) ++ quoted name ++ ": " ++ prettyAt (level + 1) value ++
      prettyMembers (level + 1) members ++ newLine level ++ "\x7d"

/-- The items of a list behind the first. -/
def prettyItems (level : Nat) : List Json → String
  | [] => ""
  | item :: items => "," ++ newLine level ++ prettyAt level item ++ prettyItems level items

/-- The members of an object behind the first. -/
def prettyMembers (level : Nat) : List (String × Json) → String
  | [] => ""
  | (name, value) :: members =>
    "," ++ newLine level ++ quoted name ++ ": " ++ prettyAt level value ++
      prettyMembers level members

end

/-- The value written over several lines. -/
def pretty (value : Json) : String :=
  prettyAt 0 value

/-! ## Reading parts -/

/-- The member of an object with the given name. -/
def member? (name : String) : Json → Option Json
  | .object members => members.lookup name
  | _ => none

/-- The text of a string. -/
def string? : Json → Option String
  | .string text => some text
  | _ => none

/-- The items of a list. -/
def array? : Json → Option (List Json)
  | .array items => some items
  | _ => none

/-- A natural number of at most 64 bits. -/
def word64? : Json → Option Nat
  | .nat value => if value < UInt64.size then some value else none
  | _ => none

/-- The name of a case without content: a string, or an object whose only member is that name with
`null`. -/
def caseName? : Json → Option String
  | .string name => some name
  | .object [(name, .null)] => some name
  | _ => none

/-- The values of a record with the given fields: the members of an object, whatever else it has, or
the items of a list of just that length. -/
def fields? (names : List String) : Json → Option (List Json)
  | .object members => names.mapM fun name => members.lookup name
  | .array items => if items.length = names.length then some items else none
  | _ => none

end Json

end StarterCode
