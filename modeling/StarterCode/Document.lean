import StarterCode.Text.Blank
import StarterCode.Text.Lines
import StarterCode.Text.Search

/-!
# Labelled lines of a document

A problem document is prose in which some lines carry data. Such a line begins with one of eight
labels and a colon; what follows the colon, trimmed, is its value. Every other line is ignored.

Markdown may decorate the label: indentation, heading marks, one list bullet, and bold marks round
the label with the colon inside or outside of them. `undecorated` takes off what stands in front,
`valueOf?` reads the label, the colon and the marks behind them. Each step removes at most what it
names and never looks back, so a line is read in one pass from left to right.

No label is the beginning of another one, so at most one of them fits a line.
-/

set_option autoImplicit false

namespace StarterCode

/-- What a line can declare. -/
inductive Label where
  /-- The name of the problem. -/
  | problemName
  /-- The name of the function to be written. -/
  | functionName
  /-- The heading of the inputs. -/
  | inputStructure
  /-- The heading of the output. -/
  | outputStructure
  /-- One parameter. -/
  | inputField
  /-- The return value. -/
  | outputField
  /-- How a parameter is read. -/
  | inputFormat
  /-- How the return value is written. -/
  | outputFormat
deriving DecidableEq

namespace Label

/-- The label as it stands in a document, without its colon. -/
def text : Label → String
  | .problemName => "Problem Name"
  | .functionName => "Function Name"
  | .inputStructure => "Input Structure"
  | .outputStructure => "Output Structure"
  | .inputField => "Input Field"
  | .outputField => "Output Field"
  | .inputFormat => "Input Format"
  | .outputFormat => "Output Format"

/-- All labels. -/
def all : List Label := [
  .problemName, .functionName, .inputStructure, .outputStructure, .inputField, .outputField,
  .inputFormat, .outputFormat]

/-- Every label is listed. -/
theorem mem_all (label : Label) : label ∈ all := by
  cases label <;> decide

end Label

/-- A line that carries a label. -/
structure LabelledLine where
  /-- What the line declares. -/
  label : Label
  /-- The text behind the colon, trimmed. -/
  value : String
  /-- The number of the line, counted from 1. -/
  line : Nat
deriving DecidableEq

namespace Document

/-! ## One line -/

/-- The marks that open and close bold text. -/
def bold : List Char := ['*', '*']

/-- The bullets of a list, each with the blank that makes it one. -/
def bullets : List (List Char) := [['-', ' '], ['*', ' '], ['+', ' ']]

/-- The text without a bullet and the blanks behind it, or the text itself where it has none. -/
def withoutBullet (text : List Char) : List Char :=
  match bullets.findSome? (·.isPrefixOf? text) with
  | some rest => Text.trimLeft rest
  | none => text

/-- The line without indentation, heading marks, bullet and opening bold marks. -/
def undecorated (line : List Char) : List Char :=
  let body := Text.trimLeft ((Text.trimLeft line).dropWhile (· == '#'))
  Text.dropPrefix bold (withoutBullet body)

/-- The value of an undecorated line that carries `label`. -/
def valueOf? (label : Label) (body : List Char) : Option (List Char) := do
  let rest ← label.text.toList.isPrefixOf? body
  let rest ← [':'].isPrefixOf? (Text.dropPrefix bold rest)
  return Text.trim (Text.dropPrefix bold rest)

/-- The label and the value of a line. -/
def classifyLine (line : List Char) : Option (Label × List Char) :=
  Label.all.findSome? fun label => (valueOf? label (undecorated line)).map ((label, ·))

/-! ## All lines -/

/-- The labelled ones among the lines that follow each other from number `number` on. -/
def labelledFrom (number : Nat) : List (List Char) → List LabelledLine
  | [] => []
  | line :: rest =>
    match classifyLine line with
    | some (label, value) => ⟨label, String.ofList value, number⟩ :: labelledFrom (number + 1) rest
    | none => labelledFrom (number + 1) rest

/-- The labelled lines of a document, in order. -/
def labelledLines (text : String) : List LabelledLine :=
  labelledFrom 1 (Text.lines text.toList)

example : (classifyLine "  ## - **Input Field:** x  int ".toList) =
    some (.inputField, "x  int".toList) := by decide

example : classifyLine "Input Fields: x".toList = none := by decide

end Document

end StarterCode
