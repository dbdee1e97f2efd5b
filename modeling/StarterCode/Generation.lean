import StarterCode.Emission
import StarterCode.Failure
import StarterCode.Json
import StarterCode.Problem.Reader
import StarterCode.Sha256

/-!
# Generation

Generating starter code for a problem folder: its document is read once, then two passes run over
the text, one that writes stubs and one that writes programs, each into a folder of its own.

A pass makes all its sources before it writes the first file, so a problem that some language
cannot express leaves nothing behind. Nothing is taken back either. If the second pass fails, the
stubs stay, and if a file cannot be written, those before it stay.

A run works on a file tree and keeps a log. `GenerateM` carries both, and it is the tree that
makes the order of the monad matter: the state survives a failure.
-/

set_option autoImplicit false

namespace StarterCode

/-! ## Modes in reports -/

/-- The mode in reports. -/
def Mode.text : Mode → String
  | .stub => "partial"
  | .program => "full"

/-- The mode in the log. -/
def Mode.logText : Mode → String
  | .stub => "Partial"
  | .program => "Full"

/-! ## What a run answers -/

/-- The names of things inside a problem folder. -/
structure GenerationLayout where
  /-- The document. -/
  document : String := "Structure.md"
  /-- The folder for stubs. -/
  stubFolder : String := "boilerplate"
  /-- The folder for programs. -/
  programFolder : String := "boilerplate-full"

/-- A file that was written. -/
structure GeneratedFile where
  /-- The language of the code. -/
  language : Language
  /-- Stub or program. -/
  mode : Mode
  /-- The path of the file. -/
  path : String
  /-- The SHA-256 digest of the file in hexadecimal digits. -/
  sha256 : String
  /-- The number of bytes in the file. -/
  bytes : Nat
deriving DecidableEq

/-- What a run has written. -/
structure GenerationReport where
  /-- The name of the problem. -/
  problemName : String
  /-- The name of the function. -/
  functionName : String
  /-- The files in the order of writing. -/
  files : List GeneratedFile
deriving DecidableEq

/-- The files of one mode. -/
def GenerationReport.filesFor (report : GenerationReport) (mode : Mode) : List GeneratedFile :=
  report.files.filter (·.mode == mode)

/-- Something a run tells the log. -/
inductive Event where
  /-- A pass begins. -/
  | started (mode : Mode) (folder : String)
  /-- A file is written. -/
  | wrote (path : String) (language : Language) (mode : Mode)
  /-- All files are written. -/
  | finished (problemName : String) (files : Nat)
  /-- The run has failed. -/
  | failed (folder : String) (failure : Failure)

namespace Event

/-- The level of the record. -/
def level : Event → String
  | .failed _ _ => "error"
  | _ => "info"

/-- The text of the record. -/
def message : Event → String
  | .started mode _ => "generating " ++ mode.text ++ " boilerplate"
  | .wrote _ _ _ => "wrote boilerplate"
  | .finished _ _ => "boilerplate generated"
  | .failed _ failure => failure.message

/-- The values of the record. -/
def fields : Event → List (String × String)
  | .started _ folder => [("problem", Path.shown folder)]
  | .wrote path language mode =>
    [("path", Path.shown path), ("language", language.text), ("mode", mode.logText)]
  | .finished problemName files => [("problem", problemName), ("files", toString files)]
  | .failed folder _ => [("problem", Path.shown folder)]

end Event

/-! ## Running -/

/-- What a run works on. -/
structure Session where
  /-- The files. -/
  tree : FileTree
  /-- The log so far. -/
  log : List Event

/-- A run that may fail, with the files and the log as they are then. -/
abbrev GenerateM := ExceptT Failure (StateM Session)

namespace Generation

/-- Adds an event to the log. -/
def record (event : Event) : GenerateM Unit :=
  modify fun session => { session with log := session.log ++ [event] }

/-- A result that leaves files and log as they are. -/
def ofResult {α : Type} (result : Except Failure α) : GenerateM α :=
  ExceptT.mk (pure result)

/-- The text of the document in a problem folder. Folder and document have to be there. -/
def readDocument (layout : GenerationLayout) (folder : String) (tree : FileTree) :
    Except Failure String :=
  let path := Path.join folder layout.document
  if !tree.isFolder folder then .error (.missing "problem directory" folder)
  else if !tree.isFile path then .error (.missing layout.document path)
  else
    match tree.readText path with
    | .ok text => .ok text
    | .error fault => .error (.file path fault)

/-- The sources in all languages, or the first failure. -/
def emitAll (emit : Language → Except EmissionError Code) :
    Except EmissionError (List (Language × Code)) :=
  Language.all.mapM fun language => do return (language, ← emit language)

/-- Makes a folder and all missing ones above it. -/
def makeFolders (path : String) : GenerateM Unit := do
  let session ← get
  let (tree, outcome) := session.tree.makeFolders path
  set { session with tree }
  match outcome with
  | .ok () => return
  | .error fault => throw (.file path fault)

/-- Writes a file. -/
def writeFile (path : String) (content : ByteArray) : GenerateM Unit := do
  let session ← get
  match session.tree.writeFile path content with
  | .ok tree => set { session with tree }
  | .error fault => throw (.file path fault)

/-- Writes one source into a folder. -/
def writeSource (mode : Mode) (folder : String) (source : Language × Code) :
    GenerateM GeneratedFile := do
  let (language, code) := source
  let path := Path.join folder language.fileName
  let content := code.text.toUTF8
  writeFile path content
  record (.wrote path language mode)
  return ⟨language, mode, path, Sha256.hexDigest content, content.size⟩

/-- Writes the sources of a pass into a folder, which is made if need be. -/
def writeSources (mode : Mode) (folder : String) (sources : List (Language × Code)) :
    GenerateM (List GeneratedFile) := do
  makeFolders folder
  sources.mapM (writeSource mode folder)

/-- The first pass: the stubs of the problem that the text declares. -/
def writeStubs (layout : GenerationLayout) (folder text : String) :
    GenerateM (Problem × List GeneratedFile) := do
  record (.started .stub folder)
  let problem ← ofResult (Failure.ofParse (Problem.parse text))
  let sources ← ofResult (Failure.ofEmission (emitAll problem.emit))
  let files ← writeSources .stub (Path.join folder layout.stubFolder) sources
  return (problem, files)

/-- The second pass: the programs of the problem that the text declares. -/
def writePrograms (layout : GenerationLayout) (folder text : String) :
    GenerateM (List GeneratedFile) := do
  record (.started .program folder)
  let laidOut ← ofResult (Failure.ofParse (LaidOutProblem.parse text))
  let sources ← ofResult (Failure.ofEmission (emitAll laidOut.emit))
  writeSources .program (Path.join folder layout.programFolder) sources

/-- Generates the starter code of a problem folder. -/
def run (layout : GenerationLayout) (folder : String) : GenerateM GenerationReport := do
  let text ← ofResult (readDocument layout folder (← get).tree)
  let (problem, stubs) ← writeStubs layout folder text
  let programs ← writePrograms layout folder text
  return ⟨problem.name, problem.functionName, stubs ++ programs⟩

end Generation

/-- Generates the starter code of a problem folder: the report or the failure, the log, and the
files as they are then. -/
def generate (layout : GenerationLayout) (folder : String) (tree : FileTree) :
    Except Failure GenerationReport × Session :=
  (Generation.run layout folder).run.run ⟨tree, []⟩

/-- Generates with the usual layout and tells the log how it went: whether it succeeded, the log,
and the files. -/
def generateLogged (folder : String) (tree : FileTree) : Bool × Session :=
  match generate {} folder tree with
  | (.ok report, session) =>
    let event := Event.finished report.problemName report.files.length
    (true, { session with log := session.log ++ [event] })
  | (.error failure, session) =>
    (false, { session with log := session.log ++ [.failed folder failure] })

/-! ## Reports as JSON -/

/-- The JSON form of a written file whose path is a text. -/
def GeneratedFile.toJson (file : GeneratedFile) : Json :=
  .object [
    ("language", .string file.language.text), ("mode", .string file.mode.text),
    ("path", .string file.path), ("sha256", .string file.sha256), ("bytes", .nat file.bytes)]

/-- The JSON form of a report. There is none if the path of a file is not a text. -/
def GenerationReport.toJson? (report : GenerationReport) : Option Json :=
  if report.files.all fun file => Path.isText file.path then
    some (.object [
      ("problem_name", .string report.problemName), ("function_name", .string report.functionName),
      ("files", .array (report.files.map GeneratedFile.toJson))])
  else none

end StarterCode
