import StarterCode.Proofs.Emission.Expressible
import StarterCode.Proofs.Emission.LineEnds
import StarterCode.Proofs.Emission.LineHelper
import StarterCode.Proofs.Emission.Unambiguous
import StarterCode.Proofs.Problem.Formats

/-!
# Parameters from the document to the code

A parameter has one line in the document, and from there it goes into the signature of the function,
into the lines of `main` that read it, and into the call. A `ParameterEntry` is what is known of one
parameter on this way, and `Language.Enters` says how it comes out of its line: name and type as
declared, the name as the language writes it, the type as it spells it, the layout by the lines that
set layouts, and the reader by type and layout.

`Language.InOrder` lays the code out from a list of entries. The emitters put the same places
together by pairing lists, of declared parameters, of layouts and of written variables, and pairing
drops what has no partner. That nothing is dropped, so that the entries are those of the lines of
the document one by one, is what `exists_inOrder_of_emit` says. It is a statement on the lines of
the code, and these are the lines of the text that is written.
-/

set_option autoImplicit false

namespace StarterCode

/-! ## Entries -/

/-- A parameter on its way from the document to the code. -/
structure ParameterEntry where
  /-- The name as declared. -/
  name : String
  /-- The type as declared. -/
  type : ValueType
  /-- How its value stands in a test file. -/
  layout : InputLayout
  /-- The name as it is written and the spelling of the type. -/
  written : Variable
  /-- What reads the value. -/
  reader : String

namespace Language

/-- The function that reads a word of an array, by the type of the array. -/
def wordParser? : ValueType → Option String
  | .array .integer => some "parseIntegerToken"
  | .array .float => some "parseFloatToken"
  | .array .boolean => some "parseBooleanToken"
  | .array .string => some "parseStringToken"
  | _ => none

/-- What reads a value of a type in a layout. Where the language has types in its code, they choose
among the readers of one name; otherwise the reader is put together for the type. -/
def reader? : Language → ValueType → InputLayout → Option String
  | .cpp, _, .counted => some "readValue"
  | .cpp, _, .line => some "readLine"
  | .javaScript, type, .counted => JavaScript.readers.spell? type
  | .javaScript, type, .line => (wordParser? type).map fun word => "readLine(" ++ word ++ ")"
  | .rust, _, .counted => some "ReadValue::read_value(&mut reader)"
  | .rust, _, .line => some "read_line(&mut reader)"

/-- How the reader of a whole line begins. -/
def lineReader : Language → String
  | .cpp | .javaScript => "readLine"
  | .rust => "read_line"

/-- What reads the value of the entry is a reader of whole lines. -/
def ReadsLine (language : Language) (entry : ParameterEntry) : Prop :=
  language.lineReader.toList <+: entry.reader.toList

/-- The entry is that of a line with the given value, where `formats` are the values that set
layouts. -/
structure Enters (language : Language) (formats : List String) (field : String)
    (entry : ParameterEntry) : Prop where
  declares : Problem.Declares field entry.name entry.type
  name_eq : entry.written.name = language.written entry.name
  spell?_eq : language.dialect.spelling.spell? entry.type = some entry.written.type
  layout_iff : entry.layout = .line ↔
    ∃ format ∈ formats, LaidOutProblem.wordsOf format = [entry.name, "line"]
  reader?_eq : language.reader? entry.type entry.layout = some entry.reader

/-! ## The places of an entry in the code -/

/-- The entry in the list of parameters. A scalar is passed by value in C++, anything else by
reference. -/
def parameterText : Language → ParameterEntry → String
  | .cpp, entry =>
    if entry.type.isScalar then entry.written.type ++ " " ++ entry.written.name
    else entry.written.type ++ "& " ++ entry.written.name
  | .javaScript, entry => entry.written.name
  | .rust, entry => entry.written.name ++ ": " ++ entry.written.type

/-- The lines that read the entry. -/
def readLines : Language → ParameterEntry → Code
  | .cpp, entry =>
    [ entry.written.type ++ " " ++ entry.written.name ++ Code.braced "" ++ ";",
      entry.reader ++ "(reader, " ++ entry.written.name ++ ");" ]
  | .javaScript, entry =>
    ["const " ++ entry.written.name ++ " = " ++ (entry.reader ++ "(reader)") ++ ";"]
  | .rust, entry =>
    ["let " ++ entry.written.name ++ ": " ++ entry.written.type ++ " = " ++ entry.reader ++ ";"]

/-- The list of parameters between commas. -/
def parameterList (language : Language) (entries : List ParameterEntry) : String :=
  ", ".intercalate (entries.map language.parameterText)

/-- The list of arguments between commas. -/
def argumentList (entries : List ParameterEntry) : String :=
  ", ".intercalate (entries.map (·.written.name))

/-- The head of the function, without its brace. -/
def functionHead (language : Language) (header : Header) (entries : List ParameterEntry) : String :=
  let parameters := language.parameterList entries
  match language with
  | .cpp => header.returnType ++ " " ++ header.functionName ++ "(" ++ parameters ++ ")"
  | .javaScript => "function " ++ header.functionName ++ "(" ++ parameters ++ ")"
  | .rust =>
    "pub fn " ++ header.functionName ++ "(" ++ parameters ++ ") -> " ++ header.returnType

/-- The lines with the signature: the head of the function, and where the language has no types the
comment in front of it that gives them. -/
def signature (language : Language) (header : Header) (entries : List ParameterEntry) : Code :=
  let head := [language.functionHead header entries ++ " \x7b"]
  match language with
  | .cpp | .rust => head
  | .javaScript =>
    entries.map (fun entry =>
        " * @param " ++ Code.braced entry.written.type ++ " " ++ entry.written.name) ++
      [" * @returns " ++ Code.braced header.returnType, " */"] ++ head

/-- The line that calls the function. -/
def callLine (language : Language) (header : Header) (entries : List ParameterEntry) : String :=
  let call := header.functionName ++ "(" ++ argumentList entries ++ ");"
  match language with
  | .cpp => header.returnType ++ " " ++ header.outputName ++ " = " ++ call
  | .javaScript => "const " ++ header.outputName ++ " = " ++ call
  | .rust => "let " ++ header.outputName ++ ": " ++ header.returnType ++ " = " ++ call

/-- The function `main`: it makes a reader, reads the entries in order, calls the function with them
and writes what is returned. -/
def mainCode (language : Language) (header : Header) (entries : List ParameterEntry)
    (layout : OutputLayout) : Code :=
  let reading := entries.flatMap language.readLines
  let call := language.callLine header entries
  match language with
  | .cpp =>
    Code.block "int main()" (["TokenReader reader(std::cin);", ""] ++ reading ++ ["", call] ++
      Cpp.writingLines header layout ++ ["return 0;"])
  | .javaScript =>
    Code.block "function main()" (
      ["const reader = new TokenReader(fs.readFileSync(0, 'utf-8'));"] ++ reading ++ [call] ++
      JavaScript.writingLines header layout)
  | .rust =>
    Code.block "fn main()" (
      [ "let mut input = String::new();",
        "io::stdin().read_to_string(&mut input).expect(\"failed to read stdin\");",
        "let mut reader = TokenReader::new(&input);", "" ] ++ reading ++ ["", call] ++
      Rust.writingLines header layout)

/-- Stub and program are laid out by the entries, which are those of the lines with the values
`fields`, one by one and in order. -/
structure InOrder (language : Language) (fields formats : List String) (header : Header)
    (layout : OutputLayout) (entries : List ParameterEntry) (stub program : Code) : Prop where
  /-- There is one entry for each line. -/
  enters : List.Forall₂ (language.Enters formats) fields entries
  /-- The signature of the stub lists the entries. -/
  signature_stub : language.signature header entries <:+: stub
  /-- So does the one in the program. -/
  signature_program : language.signature header entries <:+: program
  /-- The function `main` reads the entries and calls the function with them. -/
  main_program : language.mainCode header entries layout <:+: program
  /-- The reader of whole lines is used for the entries of that layout. -/
  readsLine_iff : ∀ entry ∈ entries, language.ReadsLine entry ↔ entry.layout = .line
  /-- The helper is there if it is used. -/
  lineHelper_iff : language.lineHelper <:+: program ↔ ∃ entry ∈ entries, language.ReadsLine entry
  /-- If it is not used, then not even the line that begins its definition is there. -/
  lineHelperHead_iff :
    language.lineHelperHead ∈ program ↔ ∃ entry ∈ entries, language.ReadsLine entry

/-! ## The entries of a program -/

/-- The entry of what a program reads. -/
def entryOf (language : Language) (reading : Input × Variable) : ParameterEntry where
  name := reading.1.parameter.name
  type := reading.1.parameter.type
  layout := reading.1.layout
  written := reading.2
  reader := (language.reader? reading.1.parameter.type reading.1.layout).getD ""

/-- The entries of a program. -/
def entriesOf (language : Language) (laidOut : LaidOutProblem) (header : Header) :
    List ParameterEntry :=
  (readings laidOut header).map language.entryOf

variable {language : Language} {laidOut : LaidOutProblem} {header : Header}

/-- Two relations through the middle list, which is paired with the last one. -/
theorem forall₂_zip_right {α β γ : Type} {R : α → β → Prop} {S : β → γ → Prop} :
    ∀ {as : List α} {bs : List β} {cs : List γ}, List.Forall₂ R as bs → List.Forall₂ S bs cs →
      List.Forall₂ (fun a both => R a both.1 ∧ S both.1 both.2) as (bs.zip cs)
  | _, _, _, .nil, .nil => .nil
  | _, _, _, .cons hfirst hothers, .cons hfirst' hothers' =>
    .cons ⟨hfirst, hfirst'⟩ (forall₂_zip_right hothers hothers')

/-- Fitting inputs have a variable each. -/
theorem writes_inputs (hfits : laidOut.Fits)
    (hheads : language.dialect.Heads laidOut.problem header) :
    List.Forall₂ (fun input written => language.dialect.Writes input.parameter written)
      laidOut.inputs header.parameters := by
  apply List.forall₂_map_left_iff.mp
  rw [hfits.parameters_eq]
  exact hheads.parameters

/-- No variable is dropped when inputs and variables are paired. -/
theorem map_written_entriesOf (hfits : laidOut.Fits)
    (hheads : language.dialect.Heads laidOut.problem header) :
    (entriesOf language laidOut header).map (·.written) = header.parameters := by
  have hlength := (writes_inputs hfits hheads).length_eq
  rw [entriesOf, List.map_map]
  exact List.map_snd_zip (by omega)

theorem argumentList_entriesOf (hfits : laidOut.Fits)
    (hheads : language.dialect.Heads laidOut.problem header) :
    argumentList (entriesOf language laidOut header) = header.arguments := by
  rw [Header.arguments, ← map_written_entriesOf hfits hheads, List.map_map]
  rfl

theorem wordReader_eq_ok_iff {type : ValueType} {context word : String} :
    JavaScript.wordReader type context = .ok word ↔ wordParser? type = some word := by
  cases type with
  | array element =>
    cases element <;> simp [JavaScript.wordReader, ValueType.element?, wordParser?]
  | _ => simp [JavaScript.wordReader, ValueType.element?, wordParser?]

/-- The expression that reads an input is its reader applied. -/
theorem readingText_eq_ok_iff {input : Input} {text : String} :
    JavaScript.readingText input = .ok text ↔
      ∃ reader, javaScript.reader? input.parameter.type input.layout = some reader ∧
        reader ++ "(reader)" = text := by
  rw [JavaScript.readingText]
  cases input.layout with
  | counted => simp [bind_eq_ok, Spelling.spellFor_eq_ok, reader?, pure, Except.pure]
  | line =>
    simp [bind_eq_ok, wordReader_eq_ok_iff, reader?, pure, Except.pure, String.append_assoc]

/-- What reads an input is known when its layout fits. -/
theorem exists_reader (hfits : laidOut.Fits)
    (hheads : language.dialect.Heads laidOut.problem header) {input : Input}
    (hinput : input ∈ laidOut.inputs) :
    ∃ reader, language.reader? input.parameter.type input.layout = some reader := by
  cases language with
  | cpp | rust => cases input.layout <;> exact ⟨_, rfl⟩
  | javaScript =>
    have hparameter : input.parameter ∈ laidOut.problem.parameters := by
      rw [← hfits.parameters_eq]
      exact List.mem_map_of_mem hinput
    obtain ⟨text, htext⟩ := JavaScript.readingText_eq_ok (hheads.isSome_spell? _ hparameter)
      (hfits.fitsInput _ hinput)
    obtain ⟨reader, hreader, -⟩ := readingText_eq_ok_iff.mp htext
    exact ⟨reader, hreader⟩

/-- The entry of an input has the reader of this input. -/
theorem reader?_entryOf (hfits : laidOut.Fits)
    (hheads : language.dialect.Heads laidOut.problem header) {reading : Input × Variable}
    (hinput : reading.1 ∈ laidOut.inputs) :
    language.reader? reading.1.parameter.type reading.1.layout =
      some (language.entryOf reading).reader := by
  obtain ⟨reader, hreader⟩ := exists_reader hfits hheads hinput
  rw [entryOf, hreader, Option.getD_some]

/-- The entries of a program are those of the lines of its document. -/
theorem enters_entriesOf {values : Label → List String} (hdeclared : laidOut.DeclaredBy values)
    (hheads : language.dialect.Heads laidOut.problem header) :
    List.Forall₂ (language.Enters (values .inputFormat)) (values .inputField)
      (entriesOf language laidOut header) := by
  have hfits := hdeclared.fits
  obtain ⟨hparameters, -, hlayouts, -⟩ := hdeclared.layouts
  have hdeclares : List.Forall₂
      (fun field (input : Input) =>
        Problem.Declares field input.parameter.name input.parameter.type)
      (values .inputField) laidOut.inputs := by
    have hall := hdeclared.problem.parameters
    rw [← hparameters] at hall
    exact List.forall₂_map_right_iff.mp hall
  -- lines and inputs, then inputs and variables, and what is known of an input on the way
  have hwrites := (List.forall₂_and_left _ _).mpr
    ⟨fun input hinput => hinput, writes_inputs hfits hheads⟩
  apply List.forall₂_map_right_iff.mpr
  refine (forall₂_zip_right hdeclares hwrites).imp ?_
  rintro field ⟨input, written⟩ ⟨hdeclares, hinput, hwrites⟩
  exact {
    declares := hdeclares
    name_eq := by rw [← rename_dialect]; exact hwrites.name_eq
    spell?_eq := hwrites.spell?_eq
    layout_iff := hlayouts input hinput
    reader?_eq := reader?_entryOf hfits hheads hinput }

/-! ## The places of the entries -/

/-- A function in C++ begins with its signature. -/
theorem signature_prefix_function (hfits : laidOut.Fits) :
    cpp.signature header (entriesOf cpp laidOut header) <+:
      Cpp.function laidOut.problem header := by
  -- types are taken from the declared parameters here, in an entry from the inputs
  have hparameters : laidOut.problem.parameters.zipWith (Cpp.parameterText ·.type)
      header.parameters = (entriesOf cpp laidOut header).map cpp.parameterText := by
    rw [← hfits.parameters_eq, List.zipWith_map_left, entriesOf, List.map_map, readings,
      List.map_zip_eq_zipWith]
    rfl
  rw [Cpp.function, hparameters]
  exact Code.prefix_block _ _

/-- The signature of a stub lists the entries. -/
theorem signature_infix_stubCode (hfits : laidOut.Fits)
    (hheads : language.dialect.Heads laidOut.problem header) :
    language.signature header (entriesOf language laidOut header) <:+:
      language.stubCode laidOut.problem header := by
  cases language with
  | cpp =>
    exact (signature_prefix_function hfits).isInfix.trans (List.suffix_append _ _).isInfix
  | javaScript =>
    rw [stubCode, JavaScript.stub, ← argumentList_entriesOf hfits hheads,
      ← map_written_entriesOf hfits hheads, List.map_map]
    obtain ⟨body, hbody⟩ := Code.prefix_block
      (javaScript.functionHead header (entriesOf javaScript laidOut header)) [placeholder]
    refine ⟨["/**", " * " ++ commentText laidOut.problem.name, " *"], body, ?_⟩
    simp only [signature, List.append_assoc, hbody]
    rfl
  | rust =>
    rw [stubCode, Rust.stub, ← map_written_entriesOf hfits hheads, List.map_map]
    exact (Code.prefix_block _ _).isInfix.trans (List.suffix_append _ _).isInfix

/-- A program has the signature of its stub. -/
theorem signature_infix_programCode (hfits : laidOut.Fits)
    (hheads : language.dialect.Heads laidOut.problem header) {code : Code}
    (hcode : language.programCode laidOut header = .ok code) :
    language.signature header (entriesOf language laidOut header) <:+: code := by
  have hstub := signature_infix_stubCode hfits hheads
  cases language with
  | cpp =>
    cases hcode
    have hfunction := (List.suffix_cons _ _).isInfix.trans (Cpp.infix_program laidOut header)
    exact (signature_prefix_function hfits).isInfix.trans hfunction
  | javaScript | rust =>
    -- all of the stub is in the program
    have hpart := functionPart_infix hheads hcode
    exact hstub.trans hpart

/-- The lines of `main` that read the inputs are those of the entries. -/
theorem flatMap_readLines_entriesOf :
    (entriesOf language laidOut header).flatMap language.readLines =
      (readings laidOut header).flatMap fun reading =>
        language.readLines (language.entryOf reading) := by
  rw [entriesOf, List.flatMap_map]

theorem mainCode_cpp (hfits : laidOut.Fits)
    (hheads : cpp.dialect.Heads laidOut.problem header) :
    cpp.mainCode header (entriesOf cpp laidOut header) laidOut.outputLayout =
      Cpp.mainFunction laidOut header := by
  have hreading : (fun reading => cpp.readLines (cpp.entryOf reading)) = Cpp.readingLines := by
    funext reading
    obtain ⟨⟨parameter, layout⟩, written⟩ := reading
    cases layout <;> rfl
  have hcall : cpp.callLine header (entriesOf cpp laidOut header) = Cpp.callLine header := by
    simp only [callLine, Cpp.callLine, argumentList_entriesOf hfits hheads, String.append_assoc]
  simp only [mainCode, Cpp.mainFunction, flatMap_readLines_entriesOf, hreading, hcall]

theorem mainCode_javaScript (hfits : laidOut.Fits)
    (hheads : javaScript.dialect.Heads laidOut.problem header) {reading : Code}
    (h : (readings laidOut header).mapM JavaScript.readingLine = .ok reading) :
    javaScript.mainCode header (entriesOf javaScript laidOut header) laidOut.outputLayout =
      JavaScript.mainFunction laidOut header reading := by
  -- no reader is missing, so each line is made, and it is that of the entry
  have hline : ∀ reading ∈ readings laidOut header, JavaScript.readingLine reading =
      .ok ("const " ++ reading.2.name ++ " = " ++
        ((javaScript.entryOf reading).reader ++ "(reader)") ++ ";") := by
    intro reading hreading
    have hreader := reader?_entryOf hfits hheads (List.of_mem_zip hreading).1
    exact bind_eq_ok.mpr ⟨_, readingText_eq_ok_iff.mpr ⟨_, hreader, rfl⟩, rfl⟩
  have hcall : javaScript.callLine header (entriesOf javaScript laidOut header) =
      JavaScript.callLine header := by
    simp only [callLine, JavaScript.callLine, argumentList_entriesOf hfits hheads,
      String.append_assoc]
  rw [mapM_eq_ok_map hline] at h
  cases h
  simp only [mainCode, JavaScript.mainFunction, flatMap_readLines_entriesOf, hcall,
    List.map_eq_flatMap]
  rfl

theorem mainCode_rust (hfits : laidOut.Fits)
    (hheads : rust.dialect.Heads laidOut.problem header) :
    rust.mainCode header (entriesOf rust laidOut header) laidOut.outputLayout =
      Rust.mainFunction laidOut header := by
  have hreading : (fun reading => rust.readLines (rust.entryOf reading)) =
      fun reading => [Rust.readingLine reading] := by
    funext reading
    obtain ⟨⟨parameter, layout⟩, written⟩ := reading
    cases layout <;> rfl
  have hcall : rust.callLine header (entriesOf rust laidOut header) = Rust.callLine header := by
    simp only [callLine, Rust.callLine, argumentList_entriesOf hfits hheads, String.append_assoc]
  simp only [mainCode, Rust.mainFunction, flatMap_readLines_entriesOf, hreading, hcall,
    List.map_eq_flatMap]

/-- The function `main` of a program reads the entries and calls the function with them. -/
theorem mainCode_infix_programCode (hfits : laidOut.Fits)
    (hheads : language.dialect.Heads laidOut.problem header) {code : Code}
    (hcode : language.programCode laidOut header = .ok code) :
    language.mainCode header (entriesOf language laidOut header) laidOut.outputLayout <:+:
      code := by
  cases language with
  | cpp =>
    cases hcode
    rw [mainCode_cpp hfits hheads]
    refine List.IsInfix.trans (Code.infix_spaced ?_) (List.suffix_append _ _).isInfix
    exact List.mem_append_right _ (List.mem_singleton_self _)
  | javaScript =>
    obtain ⟨reading, hreading, hcode⟩ := bind_eq_ok.mp hcode
    cases hcode
    rw [mainCode_javaScript hfits hheads hreading]
    exact Code.infix_spaced (List.mem_append_right _ (List.mem_cons_of_mem _ List.mem_cons_self))
  | rust =>
    cases hcode
    rw [mainCode_rust hfits hheads]
    exact Code.infix_spaced (List.mem_append_right _ (List.mem_singleton_self _))

/-! ## Lines read whole -/

/-- No reader of other layouts begins as a reader of whole lines. -/
theorem prefix_reader_iff {type : ValueType} {layout : InputLayout} {reader : String}
    (h : language.reader? type layout = some reader) :
    language.lineReader.toList <+: reader.toList ↔ layout = .line := by
  cases language with
  | cpp | rust =>
    cases layout with
    | counted =>
      cases h
      decide
    | line =>
      cases h
      decide
  | javaScript =>
    cases layout with
    | line =>
      obtain ⟨word, -, rfl⟩ := Option.map_eq_some_iff.mp h
      have hfront : "readLine".toList <+: "readLine(".toList := by decide
      simp only [lineReader, iff_true, String.toList_append, List.append_assoc]
      exact hfront.trans (List.prefix_append _ _)
    | counted =>
      -- no word and no template of the table begins so
      have hscalars : ∀ word ∈ [JavaScript.readers.integer, JavaScript.readers.float,
          JavaScript.readers.boolean, JavaScript.readers.string],
          ¬ "readLine".toList <+: word.toList := by
        decide
      have hfill : ∀ template ∈ [JavaScript.readers.array, JavaScript.readers.pair,
          JavaScript.readers.tuple], ∀ inner,
          ¬ "readLine".toList <+: (Spelling.fill template inner).toList := by
        intro template htemplate inner hline
        have hfronts : ∀ template ∈ [JavaScript.readers.array, JavaScript.readers.pair,
            JavaScript.readers.tuple],
            Text.Apart "readLine".toList (Spelling.front template) := by
          decide
        obtain ⟨rest, hrest⟩ := hline
        rw [Spelling.toList_fill (JavaScript.prefixFree_readers.hasSlot template htemplate),
          List.append_assoc] at hrest
        exact (hfronts template htemplate).append_ne _ _ hrest
      simp only [lineReader, reduceCtorEq, iff_false]
      cases type with
      | integer | float | boolean | string =>
        cases h
        exact hscalars _ (by simp)
      | array element =>
        obtain ⟨inner, -, rfl⟩ := Option.map_eq_some_iff.mp h
        exact hfill _ List.mem_cons_self inner
      | tuple components =>
        obtain ⟨parts, -, rfl⟩ := Option.map_eq_some_iff.mp h
        exact hfill _ (List.mem_cons_of_mem _ (Spelling.tupleTemplate_mem _ _)) _
      | custom name => cases h

/-- The reader of whole lines reads the entries that fill a line. -/
theorem readsLine_iff_of_mem (hfits : laidOut.Fits)
    (hheads : language.dialect.Heads laidOut.problem header) {entry : ParameterEntry}
    (hentry : entry ∈ entriesOf language laidOut header) :
    language.ReadsLine entry ↔ entry.layout = .line := by
  obtain ⟨reading, hreading, rfl⟩ := List.mem_map.mp hentry
  exact prefix_reader_iff (reader?_entryOf hfits hheads (List.of_mem_zip hreading).1)

/-- Some entry is read as a whole line if some input fills one. -/
theorem readsLines_iff (hfits : laidOut.Fits)
    (hheads : language.dialect.Heads laidOut.problem header) :
    readsLines laidOut = true ↔
      ∃ entry ∈ entriesOf language laidOut header, language.ReadsLine entry := by
  -- no input is dropped when inputs and variables are paired
  have hlength := (writes_inputs hfits hheads).length_eq
  have hinputs : (readings laidOut header).map (·.1) = laidOut.inputs :=
    List.map_fst_zip (by omega)
  rw [readsLines, ← hinputs, List.any_map, List.any_eq_true]
  constructor
  · rintro ⟨reading, hreading, hline⟩
    have hentry : language.entryOf reading ∈ entriesOf language laidOut header :=
      List.mem_map_of_mem hreading
    exact ⟨_, hentry, (readsLine_iff_of_mem hfits hheads hentry).mpr (beq_iff_eq.mp hline)⟩
  · rintro ⟨entry, hentry, hline⟩
    rw [readsLine_iff_of_mem hfits hheads hentry] at hline
    obtain ⟨reading, hreading, rfl⟩ := List.mem_map.mp hentry
    exact ⟨reading, hreading, beq_iff_eq.mpr hline⟩

end Language

/-! ## From document to code -/

/-- **From the document to the code.** A program is laid out by one entry for each line that
declares a parameter, in the order of these lines, and so is the stub. The lines of the code of both
are the lines of their texts. -/
theorem exists_inOrder_of_emit {text : String} {laidOut : LaidOutProblem} {language : Language}
    {code : Code} (hparse : LaidOutProblem.parse text = .ok laidOut)
    (hemit : laidOut.emit language = .ok code) :
    ∃ header entries stub, language.dialect.Heads laidOut.problem header ∧
      laidOut.problem.emit language = .ok stub ∧
      language.InOrder (Document.valuesOf (Document.labelledLines text) .inputField)
        (Document.valuesOf (Document.labelledLines text) .inputFormat) header
        laidOut.outputLayout entries stub code ∧
      Text.lines stub.text.toList = stub.map String.toList ∧
      Text.lines code.text.toList = code.map String.toList := by
  have hdeclared := LaidOutProblem.parse_eq_ok_iff.mp hparse
  have hfits := hdeclared.fits
  obtain ⟨header, hheader, hcode⟩ := bind_eq_ok.mp hemit
  have hheads := Dialect.heads_of_header hheader
  have hneeded := Language.readsLines_iff hfits hheads
  obtain ⟨hhelper, hhelperHead⟩ := Language.lineHelper_iff hheads hcode
  have hstub : laidOut.problem.emit language = .ok (language.stubCode laidOut.problem header) :=
    bind_eq_ok.mpr ⟨header, hheader, rfl⟩
  have hproblem := (LaidOutProblem.fits_of_parse hparse).1
  refine ⟨header, language.entriesOf laidOut header, language.stubCode laidOut.problem header,
    hheads, hstub, ?_, Problem.lines_emit hproblem hstub, LaidOutProblem.lines_emit hparse hemit⟩
  exact {
    enters := Language.enters_entriesOf hdeclared hheads
    signature_stub := Language.signature_infix_stubCode hfits hheads
    signature_program := Language.signature_infix_programCode hfits hheads hcode
    main_program := Language.mainCode_infix_programCode hfits hheads hcode
    readsLine_iff := fun entry hentry => Language.readsLine_iff_of_mem hfits hheads hentry
    lineHelper_iff := hhelper.trans hneeded
    lineHelperHead_iff := hhelperHead.trans hneeded }

/-- A document with two parameters, of which the second fills a line. -/
def scoresDocument : String :=
  "Problem Name: \"Scores\"\nInput Field: playerName string\nInput Format: roundScores line\n" ++
    "Input Field: roundScores int[]\nFunction Name: bestScore\nOutput Field: int\n"

/-- The problem of that document. -/
def scoresProblem : LaidOutProblem where
  problem := ⟨"Scores", "bestScore",
    [⟨"playerName", .string, 0⟩, ⟨"roundScores", .array .integer, 1⟩], .integer, "result"⟩
  inputs := [⟨⟨"playerName", .string, 0⟩, .counted⟩,
    ⟨⟨"roundScores", .array .integer, 1⟩, .line⟩]
  outputLayout := .line

/-- The document has one value for each parameter, and its program in Rust has one entry for each of
the two. -/
theorem exists_inOrder_of_emit_scores :
    LaidOutProblem.parse scoresDocument = .ok scoresProblem ∧
    ∃ code, scoresProblem.emit .rust = .ok code ∧
    ∃ header entries stub, Rust.dialect.Heads scoresProblem.problem header ∧
      scoresProblem.problem.emit .rust = .ok stub ∧
      Language.rust.InOrder ["playerName string", "roundScores int[]"] ["roundScores line"] header
        .line entries stub code ∧
      Text.lines stub.text.toList = stub.map String.toList ∧
      Text.lines code.text.toList = code.map String.toList := by
  have hlines : Document.labelledLines scoresDocument = [
      ⟨.problemName, "\"Scores\"", 1⟩, ⟨.inputField, "playerName string", 2⟩,
      ⟨.inputFormat, "roundScores line", 3⟩, ⟨.inputField, "roundScores int[]", 4⟩,
      ⟨.functionName, "bestScore", 5⟩, ⟨.outputField, "int", 6⟩] := by
    decide +kernel
  have hparse : LaidOutProblem.parse scoresDocument = .ok scoresProblem := by
    rw [LaidOutProblem.parse, hlines]
    exact eq_ok_of_toOption (by decide +kernel)
  have hheader : Language.rust.dialect.header scoresProblem.problem = .ok
      ⟨"best_score", [⟨"player_name", "String"⟩, ⟨"round_scores", "Vec<i32>"⟩], "i32", "result"⟩ :=
    eq_ok_of_toOption (by decide +kernel)
  obtain ⟨code, hcode⟩ := Language.programCode_eq_ok (LaidOutProblem.fits_of_parse hparse).2
    (Dialect.heads_of_header hheader)
  have hemit : scoresProblem.emit .rust = .ok code := bind_eq_ok.mpr ⟨_, hheader, hcode⟩
  have hinOrder := exists_inOrder_of_emit hparse hemit
  rw [hlines] at hinOrder
  exact ⟨hparse, code, hemit, hinOrder⟩

end StarterCode
