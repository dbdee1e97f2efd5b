/-!
# Blank characters

White space decides where a word, a value or a line of a document begins and ends. This module
holds the class `isBlank` and the cuts made at it: `trim` at both ends, `splitFirstWord` after the
first word, `words` between all of them.

Blank means the Unicode property White_Space, twenty-five characters. It is wider than the white
space of `Char.isWhitespace` (no-break spaces, the line and paragraph separators and the typographic
spaces are in it), and the zero-width space, the byte order mark and the separators
`U+001C` to `U+001F` are outside.

All cuts work on `List Char`, so each is a `takeWhile` or a `dropWhile` and nothing is said about
byte offsets.
-/

set_option autoImplicit false

namespace StarterCode.Text

/-! ## The class -/

/-- A character with the Unicode property White_Space. -/
def isBlank (c : Char) : Bool :=
  let n := c.toNat
  (0x09 ≤ n && n ≤ 0x0D) || n == 0x20 || n == 0x85 || n == 0xA0 || n == 0x1680 ||
    (0x2000 ≤ n && n ≤ 0x200A) || n == 0x2028 || n == 0x2029 || n == 0x202F || n == 0x205F ||
    n == 0x3000

/-- Every character that core calls white space is blank. -/
theorem isBlank_of_isWhitespace {c : Char} (h : c.isWhitespace = true) : isBlank c = true := by
  simp only [Char.isWhitespace, Bool.or_eq_true, decide_eq_true_eq] at h
  rcases h with ((rfl | rfl) | rfl) | rfl <;> decide

/-! ## Trimming -/

/-- The text without its leading blanks. -/
def trimLeft (s : List Char) : List Char :=
  s.dropWhile isBlank

/-- The text without its trailing blanks. -/
def trimRight (s : List Char) : List Char :=
  (s.reverse.dropWhile isBlank).reverse

/-- The text without its blanks at either end. -/
def trim (s : List Char) : List Char :=
  trimRight (trimLeft s)

/-! ## Words -/

/-- The first word of the trimmed text and, trimmed again, what follows the blank after it. A text
of one word leaves an empty rest. -/
def splitFirstWord (s : List Char) : List Char × List Char :=
  let body := trim s
  (body.takeWhile (!isBlank ·), trim ((body.dropWhile (!isBlank ·)).drop 1))

/-- Puts a character in front of the first word, or begins a word with it. -/
def consFirst (c : Char) : List (List Char) → List (List Char)
  | [] => [[c]]
  | w :: ws => (c :: w) :: ws

/-- The longest runs of characters that are not blank, from left to right. -/
def words : List Char → List (List Char)
  | [] => []
  | c :: rest =>
    if isBlank c then words rest
    else
      match rest with
      | [] => [[c]]
      | d :: _ => if isBlank d then [c] :: words rest else consFirst c (words rest)

example : words "  a bc\td ".toList = ["a".toList, "bc".toList, "d".toList] := by decide

end StarterCode.Text
