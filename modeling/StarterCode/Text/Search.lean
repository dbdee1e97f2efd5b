/-!
# Searching and replacing

One search serves every question that is asked of a text: `findFrom?` tries a reader at each
position from left to right and answers with the first success. Whether a word occurs is the reader
that strips that word.

`replaceFirst` is the one replacement that a template needs: it fills the first slot and leaves any
further one as it is.
-/

set_option autoImplicit false

namespace StarterCode.Text

universe u

/-- The answer of `read` at the first position of the text at which it has one. The end of the text
is a position too. -/
def findFrom? {α : Type u} (read : List Char → Option α) : List Char → Option α
  | [] => read []
  | c :: rest => (read (c :: rest)).or (findFrom? read rest)

/-- Whether `word` occurs in the text. -/
def occurs (word text : List Char) : Bool :=
  (findFrom? word.isPrefixOf? text).isSome

/-- The text with the first occurrence of the slot `opening`, `closing` replaced by `inner`. -/
def replaceFirst (opening closing : Char) (inner : List Char) : List Char → List Char
  | [] => []
  | [c] => [c]
  | c :: d :: rest =>
    if c = opening ∧ d = closing then inner ++ rest
    else c :: replaceFirst opening closing inner (d :: rest)

/-- The text without `pre` at its front, or the text itself where it does not begin so. -/
def dropPrefix (pre text : List Char) : List Char :=
  (pre.isPrefixOf? text).getD text

example : occurs "ab".toList "xaab".toList = true := by decide

example : replaceFirst '<' '>' "T".toList "a<>b<>".toList = "aTb<>".toList := by decide

end StarterCode.Text
