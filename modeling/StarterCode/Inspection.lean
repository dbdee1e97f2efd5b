import StarterCode.Document
import StarterCode.FileTree
import StarterCode.Json
import StarterCode.Text.Identifier
import StarterCode.Text.WordChar

/-!
# Inspection of problem folders

An inspection looks at a whole problem folder and lists everything that is wrong with it or could be
better. It goes by the text of the files alone and understands neither types nor layouts, so it can
say something about a document that cannot be read as a problem.

Four groups of checks run one after the other: what has to be in the folder, the declarations of
the document, the test files, and the description. Each check answers with a list of findings, and
the report is those lists in order. A `Finding` is a cause; its severity, its group, the file it
is about and its wording are functions of the cause, and together they make a `Diagnostic`.

Names of test files are sorted before they are looked at, so the order in which a folder lists them
does not show. A folder that is there can always be listed, since file trees know no permissions, so
there is no finding for one that cannot.
-/

set_option autoImplicit false

namespace StarterCode

/-! ## Diagnostics -/

/-- How serious a finding is. -/
inductive Severity where
  /-- The folder is not valid. -/
  | error
  /-- The folder could be better. -/
  | warning
deriving DecidableEq

/-- The severity in reports. -/
def Severity.text : Severity → String
  | .error => "error"
  | .warning => "warning"

/-- The group of checks that a finding belongs to. -/
inductive CheckGroup where
  /-- What has to be in the folder. -/
  | layout
  /-- The declarations of the document. -/
  | document
  /-- The test files. -/
  | tests
  /-- The description. -/
  | description
deriving DecidableEq

/-- The group in reports. -/
def CheckGroup.text : CheckGroup → String
  | .layout => "layout"
  | .document => "structure"
  | .tests => "tests"
  | .description => "description"

/-- A finding as it is reported. -/
structure Diagnostic where
  /-- How serious it is. -/
  severity : Severity
  /-- The checks it comes from. -/
  group : CheckGroup
  /-- The file it is about, where there is one. -/
  file : Option String
  /-- What was found. -/
  message : String
deriving DecidableEq

/-- The diagnostic on one line. -/
def Diagnostic.text (diagnostic : Diagnostic) : String :=
  let place := match diagnostic.file with
    | some file => " in " ++ file
    | none => ""
  diagnostic.severity.text ++ " [" ++ diagnostic.group.text ++ "]" ++ place ++ ": " ++
    diagnostic.message

/-- The JSON form of a diagnostic. -/
def Diagnostic.toJson (diagnostic : Diagnostic) : Json :=
  .object [
    ("file", (diagnostic.file.map Json.string).getD .null),
    ("kind", .string diagnostic.group.text), ("message", .string diagnostic.message),
    ("severity", .string diagnostic.severity.text)]

/-! ## Findings -/

/-- A file that comes with every test. -/
inductive TestSide where
  /-- What a program reads. -/
  | input
  /-- What it should write. -/
  | output
deriving DecidableEq

namespace TestSide

/-- The first part of the names of its files. -/
def text : TestSide → String
  | .input => "input"
  | .output => "output"

/-- The other side. -/
def opposite : TestSide → TestSide
  | .input => .output
  | .output => .input

/-- The name of the file of the test with the given number. -/
def fileName (side : TestSide) (number : Nat) : String :=
  side.text ++ toString number ++ ".txt"

end TestSide

/-- Something wrong with a problem folder, or that could be better. -/
inductive Finding where
  /-- There is no such folder. -/
  | noFolder (path : String)
  /-- A file has to be in the folder. -/
  | missingFile (name : String)
  /-- A folder has to be in the folder. -/
  | missingFolder (name : String)
  /-- A file cannot be read. -/
  | unreadable (group : CheckGroup) (file : String) (fault : FileFault)
  /-- A heading or a name is not declared. -/
  | missingField (text : String)
  /-- No field of this kind is declared. -/
  | missingDefinitions (text : String)
  /-- The problem name has no quotes round it. -/
  | unquotedProblemName
  /-- The function has no name. -/
  | noFunctionName
  /-- The name of the function is no identifier. -/
  | invalidFunctionName (name : String)
  /-- There is no test file of one side. -/
  | noTests (side : TestSide)
  /-- There are more test files of one side than of the other. -/
  | unequalTests (inputs outputs : Nat)
  /-- The file of one side is missing from a test. -/
  | missingTest (side : TestSide) (number : Nat)
  /-- There is nothing in a test file. -/
  | emptyTest (file : String)
  /-- The description is short. -/
  | shortDescription
  /-- The description lacks a part. -/
  | lacks (part : String)

namespace Finding

/-- The name of the document. -/
def documentName : String := "Structure.md"

/-- The name of the description. -/
def descriptionName : String := "Problem.md"

/-- The name of the folder of test files. -/
def testsName : String := "tests"

/-- How serious the finding is. -/
def severity : Finding → Severity
  | .unequalTests _ _ | .emptyTest _ | .shortDescription | .lacks _ => .warning
  | _ => .error

/-- The checks that make the finding. -/
def group : Finding → CheckGroup
  | .noFolder _ | .missingFile _ | .missingFolder _ => .layout
  | .unreadable group _ _ => group
  | .missingField _ | .missingDefinitions _ | .unquotedProblemName | .noFunctionName
  | .invalidFunctionName _ => .document
  | .noTests _ | .unequalTests _ _ | .missingTest _ _ | .emptyTest _ => .tests
  | .shortDescription | .lacks _ => .description

/-- The file the finding is about. -/
def file? : Finding → Option String
  | .unreadable _ file _ | .emptyTest file => some file
  | .missingField _ | .missingDefinitions _ | .unquotedProblemName | .noFunctionName
  | .invalidFunctionName _ => some documentName
  | .shortDescription | .lacks _ => some descriptionName
  | _ => none

/-- The wording of the finding. -/
def message : Finding → String
  | .noFolder path => "problem directory does not exist: " ++ Path.shown path
  | .missingFile name => "missing required file: " ++ name
  | .missingFolder name => "missing required directory: " ++ name
  | .unreadable _ _ fault => "cannot read: " ++ fault.message
  | .missingField text => "missing required field: " ++ text
  | .missingDefinitions text => "missing " ++ text ++ " definitions"
  | .unquotedProblemName => "Problem Name must be in double quotes"
  | .noFunctionName => "Function Name must be a valid identifier"
  | .invalidFunctionName name =>
    "Function Name '" ++ name ++ "' must be a valid identifier " ++
      "(letters, digits, underscore; must start with a letter)"
  | .noTests side =>
    "no " ++ side.text ++ " test files found (expected " ++ side.fileName 1 ++ ", " ++
      side.fileName 2 ++ ", ...)"
  | .unequalTests inputs outputs =>
    s!"mismatch between input files ({inputs}) and output files ({outputs})"
  | .missingTest side number =>
    "missing " ++ side.text ++ " file: " ++ side.fileName number ++ " (corresponding to " ++
      side.opposite.fileName number ++ ")"
  | .emptyTest _ => "test file is empty"
  | .shortDescription => "seems very short; consider a more detailed explanation"
  | .lacks part => "should include " ++ part

/-- The finding as it is reported. -/
def diagnostic (finding : Finding) : Diagnostic :=
  ⟨finding.severity, finding.group, finding.file?, finding.message⟩

end Finding

namespace Inspection

/-- The finding, if the condition holds. -/
def whenever (condition : Bool) (finding : Finding) : List Finding :=
  if condition then [finding] else []

/-! ## What has to be in the folder -/

/-- Description, document and tests are there. -/
def layoutFindings (tree : FileTree) (folder : String) : List Finding :=
  let tests := Finding.testsName
  [Finding.descriptionName, Finding.documentName].flatMap (fun name =>
      whenever (!tree.isFile (Path.join folder name)) (.missingFile name)) ++
    whenever (!tree.isFolder (Path.join folder tests)) (.missingFolder tests)

/-! ## The document -/

/-- A label with its colon. -/
def labelText (label : Label) : String :=
  label.text ++ ":"

/-- What stands behind a label at the front of the text, bold marks and blanks apart. -/
def behindLabel? (label : Label) (text : List Char) : Option (List Char) := do
  let rest ← (labelText label).toList.isPrefixOf? text
  return Text.trimLeft (Text.dropPrefix Document.bold rest)

/-- The text between quotes behind the label of the problem name, at the front of the text. -/
def quotedNameAt? (text : List Char) : Option (List Char) := do
  match ← behindLabel? .problemName text with
  | '"' :: rest =>
    let name := rest.takeWhile (· != '"')
    if name.isEmpty || (rest.dropWhile (· != '"')).isEmpty then none else some name
  | _ => none

/-- The word characters behind the label of the function name, at the front of the text. -/
def functionNameAt? (text : List Char) : Option (List Char) := do
  let name := (← behindLabel? .functionName text).takeWhile Text.isWordChar
  if name.isEmpty then none else some name

/-- The name of the function: the first one that stands behind its label. -/
def functionFindings (text : List Char) : List Finding :=
  match Text.findFrom? functionNameAt? text with
  | none => [.noFunctionName]
  | some name =>
    whenever (!Text.isIdentifier name) (.invalidFunctionName (String.ofList name))

/-- The declarations that the document needs. -/
def documentFindings (document : String) : List Finding :=
  let text := document.toList
  let lacks := fun (label : Label) => !Text.occurs (labelText label).toList text
  [Label.problemName, .functionName, .inputStructure, .outputStructure].flatMap (fun label =>
      whenever (lacks label) (.missingField (labelText label))) ++
    [Label.inputField, .outputField].flatMap (fun label =>
      whenever (lacks label) (.missingDefinitions label.text)) ++
    whenever (Text.findFrom? quotedNameAt? text).isNone .unquotedProblemName ++
    functionFindings text

/-! ## The tests -/

/-- Whether a name is that of a test file of one side. Names that are no texts are passed over. -/
def isTest (side : TestSide) (name : String) : Bool :=
  Path.isText name && side.text.toList.isPrefixOf name.toList &&
    ".txt".toList.isSuffixOf name.toList

/-- The pairs of files up to a number of which one is missing. -/
def pairFindings (inputs outputs : List String) (number : Nat) : List Finding :=
  let hasInput := inputs.contains (TestSide.input.fileName number)
  let hasOutput := outputs.contains (TestSide.output.fileName number)
  whenever (hasInput && !hasOutput) (.missingTest .output number) ++
    whenever (hasOutput && !hasInput) (.missingTest .input number)

/-- The content of one test file. -/
def contentFindings (tree : FileTree) (folder name : String) : List Finding :=
  match tree.readText (Path.join folder name) with
  | .error fault => [.unreadable .tests name fault]
  | .ok text => whenever (Text.trim text.toList).isEmpty (.emptyTest name)

/-- The files in the folder of tests, where `names` are the names of its entries. -/
def testFindings (tree : FileTree) (folder : String) (names : List String) : List Finding :=
  let sorted := names.mergeSort fun left right => left ≤ right
  let inputs := sorted.filter (isTest .input)
  let outputs := sorted.filter (isTest .output)
  let numbers := (List.range (max inputs.length outputs.length)).map (· + 1)
  whenever inputs.isEmpty (.noTests .input) ++
    whenever outputs.isEmpty (.noTests .output) ++
    whenever (inputs.length != outputs.length) (.unequalTests inputs.length outputs.length) ++
    numbers.flatMap (pairFindings inputs outputs) ++
    (inputs ++ outputs).flatMap (contentFindings tree folder)

/-! ## The description -/

/-- The fewest characters that make a description, blanks at its ends apart. -/
def enoughDescription : Nat := 100

/-- Whether a word of small letters occurs in the text in any letter case. Outside ASCII only the
Kelvin sign and the dotted capital I have an ASCII letter in their small form. No word that is
looked for has a `k`, and none has an `i` before the mark that the small form of the dotted I
brings along. -/
def mentions (text : List Char) (word : String) : Bool :=
  Text.occurs word.toList (text.map Char.toLower)

/-- The length and the parts of the description. -/
def descriptionFindings (description : String) : List Finding :=
  let text := description.toList
  whenever ((Text.trim text).length < enoughDescription) .shortDescription ++
    whenever (!mentions text "description" && !mentions text "problem")
      (.lacks "a problem description section") ++
    whenever (!mentions text "example") (.lacks "example inputs and outputs") ++
    whenever (!mentions text "constraint") (.lacks "a constraints section")

/-! ## The whole folder -/

/-- The findings of a check on a file, if there is such a file. -/
def fileFindings (tree : FileTree) (folder name : String) (group : CheckGroup)
    (check : String → List Finding) : List Finding :=
  let path := Path.join folder name
  if tree.isFile path then
    match tree.readText path with
    | .ok text => check text
    | .error fault => [.unreadable group name fault]
  else []

/-- All findings about a problem folder. -/
def findings (tree : FileTree) (folder : String) : List Finding :=
  if !tree.isFolder folder then [.noFolder folder]
  else
    let tests := Path.join folder Finding.testsName
    layoutFindings tree folder ++
      fileFindings tree folder Finding.documentName .document documentFindings ++
      (if tree.isFolder tests then testFindings tree tests (tree.list tests) else []) ++
      fileFindings tree folder Finding.descriptionName .description descriptionFindings

end Inspection

/-! ## Reports -/

/-- What an inspection has found. -/
structure InspectionReport where
  /-- The path of the folder. -/
  folder : String
  /-- The diagnostics in the order of the checks. -/
  diagnostics : List Diagnostic

/-- Inspects a problem folder. -/
def inspect (tree : FileTree) (folder : String) : InspectionReport :=
  ⟨folder, (Inspection.findings tree folder).map Finding.diagnostic⟩

namespace InspectionReport

/-- The errors among the diagnostics. -/
def errors (report : InspectionReport) : List Diagnostic :=
  report.diagnostics.filter (·.severity == .error)

/-- The warnings among the diagnostics. -/
def warnings (report : InspectionReport) : List Diagnostic :=
  report.diagnostics.filter (·.severity == .warning)

/-- A folder is valid if there are no errors. -/
def isValid (report : InspectionReport) : Bool :=
  report.errors.isEmpty

/-- The number of checks at the top level. -/
def checkCount : Nat := 6

/-- The number of checks that are left when each error takes one away. -/
def checksPassed (report : InspectionReport) : Nat :=
  checkCount - report.errors.length

end InspectionReport

end StarterCode
