import StarterCode.CommandLine.Arguments
import StarterCode.Generation
import StarterCode.Inspection
import StarterCode.Problem.Data

/-!
# The command line

Each command is a function from a file tree to what is printed and the exit status; only `generate`
changes the tree. Results go to the standard output and messages to the standard error output. The
status is 0 for success, 1 for failure and 2 for arguments that ask for nothing.

`validate` puts two sources of errors together, the inspection and, on request, an attempt to
write all programs without writing a file. Whether the folder is valid, how many errors there are
and the exit status all come from these two lists, in the same way for either form of output.

There is one way to miss that form. Messages show a path that is not a text with replacement
characters, but JSON cannot hold it. If it is asked for, `generate` fails after it has written its
files, and `validate` crashes with the status 101.
-/

set_option autoImplicit false

namespace StarterCode.CommandLine

/-! ## Answers -/

/-- What the program prints and how it ends. -/
structure Response where
  /-- The exit status. -/
  status : Nat
  /-- The standard output. -/
  output : String
  /-- The standard error output. -/
  messages : String
deriving DecidableEq

/-- The lines as a text. -/
def textOfLines (lines : List String) : String :=
  String.join (lines.map (· ++ "\n"))

/-- The line for an error. -/
def errorLine (message : String) : String :=
  "error: " ++ message ++ "\n"

/-- The end of a run that failed. -/
def failed (message : String) : Response :=
  ⟨1, "", errorLine message⟩

/-- The end of a run that prints a JSON value. -/
def printed (status : Nat) (value : Json) : Response :=
  ⟨status, value.pretty ++ "\n", ""⟩

/-- Why a path is not printed as JSON. -/
def notTextMessage : String := "path contains invalid UTF-8 characters"

/-- The status of a run that crashes. -/
def crashStatus : Nat := 101

/-- The end of a run that crashes. Of the report on the crash only the reason is kept, not the place
in the program. -/
def crashed (reason : String) : Response :=
  ⟨crashStatus, "", reason ++ "\n"⟩

/-- The version of program and library. -/
def versionText : String := "0.1.0"

/-! ## Generating -/

/-- The lines that report what was written. -/
def generatedLines (report : GenerationReport) : List String :=
  ("generated boilerplate for \"" ++ report.problemName ++ "\" (" ++ report.functionName ++ ")") ::
    report.files.map fun file =>
      "  " ++ String.ofList (file.sha256.toList.take 12) ++ "  " ++ Path.shown file.path

/-- The answer to the outcome of a generation. -/
def generateResponse (json quiet : Bool) : Except Failure GenerationReport → Response
  | .ok report =>
    if json then
      match report.toJson? with
      | some value => printed 0 value
      | none => failed ("cannot serialize output: " ++ notTextMessage)
    else ⟨0, if quiet then "" else textOfLines (generatedLines report), ""⟩
  | .error failure =>
    let response := failed failure.message
    if json then
      { response with
        output := (Json.object [("error", .string failure.message)]).pretty ++ "\n" }
    else response

/-! ## Validating -/

/-- The messages of an attempt to write the programs of a folder in every language. A document that
cannot be read is left to the inspection. -/
def dryRun (tree : FileTree) (folder : String) : List String :=
  match tree.readText (Path.join folder Finding.documentName) with
  | .error _ => []
  | .ok text =>
    match LaidOutProblem.parse text with
    | .error error => [(Failure.parse error).message]
    | .ok laidOut =>
      Language.all.filterMap fun language =>
        match laidOut.emit language with
        | .ok _ => none
        | .error error => some (Failure.emission error).message

/-- What is known of a folder. -/
structure Verdict where
  /-- The path of the folder. -/
  folder : String
  /-- What the inspection has found. -/
  report : InspectionReport
  /-- The messages of the attempt to generate, if there was one. -/
  generation : Option (List String)

namespace Verdict

/-- The messages of the attempt to generate. -/
def generationErrors (verdict : Verdict) : List String :=
  verdict.generation.getD []

/-- The number of errors of either kind. -/
def errorCount (verdict : Verdict) : Nat :=
  verdict.report.errors.length + verdict.generationErrors.length

/-- There are no errors of either kind. -/
def isValid (verdict : Verdict) : Bool :=
  verdict.report.isValid && verdict.generationErrors.isEmpty

/-- The exit status. -/
def status (verdict : Verdict) : Nat :=
  if verdict.isValid then 0 else 1

/-- The members of the JSON form of a verdict, in the order of their names. -/
def members (verdict : Verdict) : List (String × Json) :=
  [ ("checks_passed", .nat verdict.report.checksPassed),
    ("diagnostics", .array (verdict.report.diagnostics.map Diagnostic.toJson)),
    ("errors", .nat verdict.errorCount) ] ++
  (match verdict.generation with
    | some messages => [("generation_errors", .array (messages.map .string))]
    | none => []) ++
  [ ("problem", .string verdict.folder),
    ("valid", .bool verdict.isValid),
    ("warnings", .nat verdict.report.warnings.length) ]

/-- The JSON form of a verdict. There is none if the path of the folder is not a text. -/
def toJson? (verdict : Verdict) : Option Json :=
  if Path.isText verdict.folder then some (.object verdict.members) else none

/-- The line for a diagnostic. Warnings have none if `quiet` is set. -/
def diagnosticLine? (quiet : Bool) (diagnostic : Diagnostic) : Option String :=
  match diagnostic.severity with
  | .error => some ("  ✗ " ++ diagnostic.text)
  | .warning => if quiet then none else some ("  ! " ++ diagnostic.text)

/-- The line for a message of the attempt to generate. -/
def generationLine (message : String) : String :=
  "  ✗ error [generation] in " ++ Finding.documentName ++ ": " ++ message

/-- The lines for all errors and warnings. -/
def problemLines (verdict : Verdict) (quiet : Bool) : List String :=
  verdict.report.diagnostics.filterMap (diagnosticLine? quiet) ++
    verdict.generationErrors.map generationLine

/-- The name of the folder as the last line has it. -/
def name (verdict : Verdict) : String :=
  Path.shown ((Path.lastName? verdict.folder).getD verdict.folder)

/-- The last line for a valid folder. -/
def validLine (verdict : Verdict) : String :=
  s!"valid {verdict.name} ({verdict.report.checksPassed} checks passed, " ++
    s!"{verdict.report.warnings.length} warnings)"

/-- The last line for a folder that is not valid. -/
def invalidLine (verdict : Verdict) : String :=
  s!"invalid {verdict.name} ({verdict.errorCount} errors, " ++
    s!"{verdict.report.warnings.length} warnings)"

/-- The answer to a verdict. -/
def response (verdict : Verdict) (json quiet : Bool) : Response :=
  if json then
    match verdict.toJson? with
    | some value => printed verdict.status value
    | none => crashed notTextMessage
  else if verdict.isValid then
    ⟨verdict.status, if quiet then "" else textOfLines [verdict.validLine],
      textOfLines (verdict.problemLines quiet)⟩
  else
    ⟨verdict.status, "", textOfLines (verdict.problemLines quiet ++ [verdict.invalidLine])⟩

end Verdict

/-- The verdict on a folder. -/
def judge (tree : FileTree) (folder : String) (dryRunWanted : Bool) : Verdict :=
  ⟨folder, inspect tree folder, if dryRunWanted then some (dryRun tree folder) else none⟩

/-! ## Documents -/

/-- The answer of a command on the text of a document. -/
def onDocument (tree : FileTree) (file : String) (answer : String → Except Failure Response) :
    Response :=
  match tree.readText file with
  | .error fault => failed ("cannot read " ++ Path.shown file ++ ": " ++ fault.message)
  | .ok text =>
    match answer text with
    | .ok response => response
    | .error failure => failed failure.message

/-- Prints the problem that a document declares. -/
def parseDocument (full : Bool) (text : String) : Except Failure Response := do
  let form ← Failure.ofParse (
    if full then (LaidOutProblem.parse text).map LaidOutProblem.toJson
    else (Problem.parse text).map Problem.toJson)
  return printed 0 form

/-- Prints the code for a document in one language. -/
def emitDocument (language : Language) (full : Bool) (text : String) : Except Failure Response := do
  let code ←
    if full then
      Failure.ofEmission ((← Failure.ofParse (LaidOutProblem.parse text)).emit language)
    else Failure.ofEmission ((← Failure.ofParse (Problem.parse text)).emit language)
  return ⟨0, code.text, ""⟩

/-! ## Running -/

/-- What a command answers, and the files as they are then. -/
def Command.answer (quiet : Bool) (tree : FileTree) : Command → Response × FileTree
  | .generate folder json =>
    let (outcome, session) := StarterCode.generate {} folder tree
    (generateResponse json quiet outcome, session.tree)
  | .validate folder json dryRunWanted =>
    ((judge tree folder dryRunWanted).response json quiet, tree)
  | .parse file full => (onDocument tree file (parseDocument full), tree)
  | .emit file language full => (onDocument tree file (emitDocument language full), tree)
  | .version =>
    (⟨0, "bpgen " ++ versionText ++ " (bpgen-core " ++ versionText ++ ")\n", ""⟩, tree)

/-- How to use the program. -/
def usage : String := textOfLines [
  "usage: bpgen [-q] generate DIR [--json]",
  "       bpgen [-q] validate DIR [--json] [--dry-run]",
  "       bpgen [-q] parse FILE [--full]",
  "       bpgen [-q] emit FILE --lang LANG [--full]",
  "       bpgen version"]

/-- The status of a run whose arguments ask for nothing. -/
def misuseStatus : Nat := 2

/-- What the program answers to a request, and the files as they are then. -/
def Request.answer (tree : FileTree) : Request → Response × FileTree
  | .run command quiet => command.answer quiet tree
  | .version => (⟨0, "bpgen " ++ versionText ++ "\n", ""⟩, tree)
  | .help => (⟨0, usage, ""⟩, tree)
  | .misuse => (⟨misuseStatus, "", usage⟩, tree)

/-- What the program answers to its arguments, and the files as they are then. -/
def answer (arguments : List String) (tree : FileTree) : Response × FileTree :=
  (request arguments).answer tree

end StarterCode.CommandLine
