/-!
# Pieces and lines

`pieces` cuts a text at every occurrence of one character, `n` occurrences giving `n + 1` pieces.
`lines` is built on it: a line ends at a line feed, and one carriage return directly before that
line feed belongs to the line end.

The two kinds of piece are treated apart, which is where the edge cases live. A piece that a line
feed ends is a line, whatever it holds. The last piece has no line end: it is a line only if it is
not empty, and a carriage return at its end is part of it.
-/

set_option autoImplicit false

namespace StarterCode.Text

/-- The stretches between the occurrences of `sep`, empty ones included. -/
def pieces (sep : Char) : List Char → List (List Char)
  | [] => [[]]
  | c :: rest =>
    if c = sep then [] :: pieces sep rest
    else
      match pieces sep rest with
      | [] => [[c]]
      | p :: ps => (c :: p) :: ps

/-- There is always a first piece. -/
theorem pieces_ne_nil (sep : Char) (s : List Char) : pieces sep s ≠ [] := by
  cases s with
  | nil => simp [pieces]
  | cons c rest =>
    simp only [pieces]
    split
    · simp
    · split <;> simp

/-- The text without one carriage return at its end. -/
def dropReturn (line : List Char) : List Char :=
  if line.getLast? = some '\r' then line.dropLast else line

/-- The lines of a text. -/
def lines (text : List Char) : List (List Char) :=
  let ps := pieces '\n' text
  let unfinished := ps.getLast?.getD []
  ps.dropLast.map dropReturn ++ (if unfinished = [] then [] else [unfinished])

example : lines "a\r\n\nb\r".toList = ["a".toList, [], "b\r".toList] := by decide

example : lines [] = [] := by decide

end StarterCode.Text
