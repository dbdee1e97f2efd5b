import StarterCode.Text.Hex
import StarterCode.Text.Lines

/-!
# Paths

A path is a text of names between slashes. It is kept as it was given, since messages and reports
show it so; only where a place is looked up is it cut into `names`. An empty name and the name `.`
stay where they are, and `..` goes up.

Paths come as bytes, any but zero, and need not be the encoding of a text. `ofBytes` keeps such a
path as a text all the same: what can be decoded stands for itself, and bytes that belong to no
character stand between two marks in hexadecimal digits. The mark is the character with the number
zero, which no path has. So different bytes are different paths, a slash is still a slash, and a
path is a text by itself exactly when it has no mark. Messages do not show the digits but one
replacement character in their place.
-/

set_option autoImplicit false

namespace StarterCode.Path

/-! ## Names -/

/-- The names of a path between its slashes, empty ones included. -/
def names (path : String) : List String :=
  (Text.pieces '/' path.toList).map String.ofList

/-- Whether the path starts at the root and not at the current folder. -/
def isAbsolute (path : String) : Bool :=
  path.toList.head? == some '/'

/-- Whether a name stays at the place where it is met. -/
def staysPut (name : String) : Bool :=
  name == "" || name == "."

/-- The path that `rest` is, seen from the folder `path`. -/
def join (path rest : String) : String :=
  if isAbsolute rest || path.isEmpty then rest
  else if path.toList.getLast? == some '/' then path ++ rest
  else path ++ "/" ++ rest

/-- The name of the place a path leads to, unless the path ends by going up or has no name. -/
def lastName? (path : String) : Option String :=
  match ((names path).filter (!staysPut ·)).getLast? with
  | some ".." => none
  | last? => last?

example : join "a/" "b" = "a/b" := by decide

example : lastName? "a/b/./" = some "b" := by decide

/-! ## Bytes that belong to no character -/

/-- The sign on either side of bytes that belong to no character. -/
def mark : Char := '\x00'

/-- Whether all bytes of the path belong to characters. -/
def isText (path : String) : Bool :=
  !path.toList.contains mark

/-- The character that is shown for bytes that belong to none. -/
def replacement : Char := '\uFFFD'

/-- The characters as they are shown, where `between` says whether they start between two marks. -/
def shownFrom : (between : Bool) → List Char → List Char
  | _, [] => []
  | between, c :: rest =>
    if c = mark then
      if between then shownFrom false rest else replacement :: shownFrom true rest
    else if between then shownFrom true rest
    else c :: shownFrom false rest

/-- The path as messages show it. -/
def shown (path : String) : String :=
  String.ofList (shownFrom false path.toList)

/-! ## Paths from bytes -/

/-- The character whose encoding the bytes begin with. -/
def firstCharacter? (bytes : List UInt8) : Option Char :=
  bytes.toByteArray.utf8DecodeChar? 0

/-- The least and the greatest second byte of characters of three or four bytes, by their first
byte. -/
def secondBytes (first : UInt8) : UInt8 × UInt8 :=
  if first = 0xe0 then (0xa0, 0xbf)
  else if first = 0xed then (0x80, 0x9f)
  else if first = 0xf0 then (0x90, 0xbf)
  else if first = 0xf4 then (0x80, 0x8f)
  else (0x80, 0xbf)

/-- Whether a character of three or four bytes begins with these two. -/
def beginsLong (first second : UInt8) : Bool :=
  0xe0 ≤ first && first ≤ 0xf4 && (secondBytes first).1 ≤ second && second ≤ (secondBytes first).2

/-- How many of the bytes `rest` go together with `first` where no character is encoded: as many as
a character could begin with. -/
def brokenRest (first : UInt8) : List UInt8 → Nat
  | [] => 0
  | second :: rest =>
    if !beginsLong first second then 0
    else
      match rest with
      | third :: _ => if 0xf0 ≤ first && 0x80 ≤ third && third ≤ 0xbf then 2 else 1
      | [] => 1

/-- Bytes that belong to no character, between marks. -/
def broken (bytes : List UInt8) : List Char :=
  mark :: (bytes.flatMap fun byte => Text.hex 2 byte.toNat) ++ [mark]

/-- The characters for the bytes behind the first `skip` ones. -/
def charactersFrom : (skip : Nat) → List UInt8 → List Char
  | _, [] => []
  | skip + 1, _ :: rest => charactersFrom skip rest
  | 0, first :: rest =>
    match firstCharacter? (first :: rest) with
    | some c => c :: charactersFrom (c.utf8Size - 1) rest
    | none =>
      let more := brokenRest first rest
      broken (first :: rest.take more) ++ charactersFrom more rest

/-- The path that the bytes are. -/
def ofBytes (bytes : List UInt8) : String :=
  String.ofList (charactersFrom 0 bytes)

example : ofBytes [0x70, 0xff] = "p\x00ff\x00" := by decide +kernel

example : shown (ofBytes [0x70, 0xe2, 0x82, 0x28, 0xff]) = "p\uFFFD(\uFFFD" := by decide +kernel

end StarterCode.Path
