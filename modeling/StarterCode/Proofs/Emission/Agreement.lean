import StarterCode.Emission
import StarterCode.Proofs.Emission.Code
import StarterCode.Proofs.Emission.Header
import StarterCode.Proofs.Problem.Layout

/-!
# Stubs and programs agree

A stub and a program of one problem fail together, with the same error, and a program holds the
function of the stub word for word.

Both begin by making the header, and what can fail in the stub fails there. Of the three programs
that of JavaScript alone has something left that might fail, the functions that read the inputs.
Two facts close these ways out. The functions are spelled by a table with the same custom names as
the types of the header, and those have been spelled. And an input that fills a line is an array of
scalars, since the layouts of a document that was read fit its types.
-/

set_option autoImplicit false

namespace StarterCode

/-! ## Programs do not fail -/

namespace JavaScript

/-- An array that may fill a line has a function that reads one word of it. -/
theorem wordReader_eq_ok {type : ValueType}
    (h : LaidOutProblem.fitsInput type .line = true) (context : String) :
    ∃ word, wordReader type context = .ok word := by
  cases type with
  | array element => cases element <;> simp [LaidOutProblem.fitsInput, ValueType.element?,
      ValueType.isScalar, wordReader] at h ⊢
  | _ => simp [LaidOutProblem.fitsInput, ValueType.element?] at h

/-- An input of a type that the comments can spell, in a layout that fits the type, is read. -/
theorem readingText_eq_ok {input : Input}
    (hspelled : (spelling.spell? input.parameter.type).isSome = true)
    (hfits : LaidOutProblem.fitsInput input.parameter.type input.layout = true) :
    ∃ reading, readingText input = .ok reading := by
  unfold readingText
  cases hlayout : input.layout with
  | counted =>
    have hcustom : spelling.custom = readers.custom := rfl
    rw [Spelling.isSome_spell?_congr hcustom, Option.isSome_iff_exists] at hspelled
    obtain ⟨reader, hreader⟩ := hspelled
    rw [← Spelling.spellFor_eq_ok] at hreader
    exact ⟨_, bind_eq_ok.mpr ⟨reader, hreader, rfl⟩⟩
  | line =>
    rw [hlayout] at hfits
    obtain ⟨word, hword⟩ := wordReader_eq_ok hfits (Dialect.parameterContext input.parameter)
    exact ⟨_, bind_eq_ok.mpr ⟨word, hword, rfl⟩⟩

/-- Under a header, every input of a problem with fitting layouts is read. -/
theorem mapM_readingLine_eq_ok {laidOut : LaidOutProblem} {header : Header}
    (hfits : laidOut.Fits) (hheads : dialect.Heads laidOut.problem header) :
    ∃ reading, (readings laidOut header).mapM readingLine = .ok reading := by
  refine mapM_eq_ok_of_forall ?_
  rintro ⟨input, written⟩ hmem
  have hinput : input ∈ laidOut.inputs := (List.of_mem_zip hmem).1
  have hparameter : input.parameter ∈ laidOut.problem.parameters := by
    rw [← hfits.parameters_eq]
    exact List.mem_map_of_mem hinput
  obtain ⟨reading, hreading⟩ :=
    readingText_eq_ok (hheads.isSome_spell? _ hparameter) (hfits.fitsInput _ hinput)
  exact ⟨_, bind_eq_ok.mpr ⟨reading, hreading, rfl⟩⟩

end JavaScript

/-- Under a header, the program of a problem with fitting layouts is made in every language. -/
theorem Language.programCode_eq_ok {language : Language} {laidOut : LaidOutProblem}
    {header : Header} (hfits : laidOut.Fits)
    (hheads : language.dialect.Heads laidOut.problem header) :
    ∃ code, language.programCode laidOut header = .ok code := by
  cases language with
  | cpp => exact ⟨_, rfl⟩
  | javaScript =>
    obtain ⟨reading, hreading⟩ := JavaScript.mapM_readingLine_eq_ok hfits hheads
    exact ⟨_, bind_eq_ok.mpr ⟨reading, hreading, rfl⟩⟩
  | rust => exact ⟨_, rfl⟩

/-- A stub fails when there is no header. -/
theorem Problem.emit_eq_error {problem : Problem} {language : Language} {error : EmissionError} :
    problem.emit language = .error error ↔ language.dialect.header problem = .error error := by
  rw [Problem.emit, bind_eq_error]
  constructor
  · rintro (h | ⟨_, -, h⟩)
    · exact h
    · cases h
  · exact .inl

/-- A program with fitting layouts fails in the same cases. -/
theorem LaidOutProblem.emit_eq_error {laidOut : LaidOutProblem} (hfits : laidOut.Fits)
    {language : Language} {error : EmissionError} :
    laidOut.emit language = .error error ↔
      language.dialect.header laidOut.problem = .error error := by
  rw [LaidOutProblem.emit, bind_eq_error]
  constructor
  · rintro (h | ⟨header, hheader, h⟩)
    · exact h
    · obtain ⟨code, hcode⟩ :=
        Language.programCode_eq_ok hfits (Dialect.heads_of_header hheader)
      rw [hcode] at h
      cases h
  · exact .inl

/-! ## The function of a stub -/

/-- The text that comes out of a template begins as the template does. -/
theorem Spelling.head?_fill {template : String} {c d : Char} {rest : List Char}
    (htemplate : template.toList = c :: d :: rest) (hslot : c ≠ '\x7b') (inner : String) :
    (fill template inner).toList.head? = some c := by
  rw [fill, String.toList_ofList, htemplate, Text.replaceFirst, if_neg fun h => hslot h.1,
    List.head?_cons]

namespace Cpp

/-- Whether a line is a comment or includes a header. -/
def isPreamble (line : String) : Bool :=
  "//".toList.isPrefixOf line.toList || "#include".toList.isPrefixOf line.toList

/-- The spelling of a type begins with one of four letters. -/
theorem head?_spell? {type : ValueType} {spelled : String}
    (h : spelling.spell? type = some spelled) :
    ∃ c ∈ ['b', 'd', 'i', 's'], spelled.toList.head? = some c := by
  cases type with
  | integer | float | boolean | string =>
    cases h
    exact ⟨_, by decide, rfl⟩
  | array element =>
    obtain ⟨inner, -, rfl⟩ := Option.map_eq_some_iff.mp h
    exact ⟨'s', by decide, Spelling.head?_fill rfl (by decide) inner⟩
  | tuple components =>
    obtain ⟨parts, -, rfl⟩ := Option.map_eq_some_iff.mp h
    refine ⟨'s', by decide, ?_⟩
    unfold Spelling.tupleTemplate
    split
    · exact Spelling.head?_fill rfl (by decide) _
    · exact Spelling.head?_fill rfl (by decide) _
  | custom name => cases h

/-- A line that begins with a letter is neither a comment nor does it include a header. -/
theorem isPreamble_of_isAlpha {line : String} {c : Char} (hhead : line.toList.head? = some c)
    (hc : c.isAlpha = true) : isPreamble line = false := by
  obtain ⟨rest, hline⟩ := List.head?_eq_some_iff.mp hhead
  have hslash : '/' ≠ c := by rintro rfl; exact absurd hc (by decide)
  have hhash : '#' ≠ c := by rintro rfl; exact absurd hc (by decide)
  simp [isPreamble, hline, List.isPrefixOf, hslash, hhash]

theorem isPreamble_titleLine (name : String) : isPreamble (titleLine name) = true := by
  simp [isPreamble, titleLine, List.isPrefixOf]

theorem isPreamble_includeLine (library : String) : isPreamble (includeLine library) = true := by
  simp [isPreamble, includeLine, List.isPrefixOf]

/-- The function begins with the spelling of the return type. -/
theorem dropWhile_function {problem : Problem} {header : Header}
    (hheads : dialect.Heads problem header) :
    (function problem header).dropWhile isPreamble = function problem header := by
  obtain ⟨c, hletter, hhead⟩ := head?_spell? hheads.spell?_eq
  have hletters : ∀ c ∈ ['b', 'd', 'i', 's'], c.isAlpha = true := by simp
  unfold function Code.block Code.blockEnding
  rw [List.append_assoc, List.singleton_append, List.dropWhile_cons_of_neg]
  refine Bool.eq_false_iff.mp (isPreamble_of_isAlpha ?_ (hletters c hletter))
  simp [hhead]

/-- The lines that include headers are part of what stands in front of the function, the empty line
behind them is not. -/
theorem dropWhile_stub {problem : Problem} {header : Header}
    (hheads : dialect.Heads problem header) :
    (stub problem header).dropWhile isPreamble = function problem header ∨
      (stub problem header).dropWhile isPreamble = "" :: function problem header := by
  rw [stub, List.append_assoc, List.singleton_append,
    List.dropWhile_cons_of_pos (isPreamble_titleLine _)]
  unfold includeLines
  split
  · rw [List.nil_append]
    exact .inl (dropWhile_function hheads)
  · have hincludes : ∀ line ∈ (libraries problem).map includeLine, isPreamble line = true := by
      intro line hline
      obtain ⟨library, -, rfl⟩ := List.mem_map.mp hline
      exact isPreamble_includeLine library
    rw [List.append_assoc, List.dropWhile_append_of_pos hincludes]
    exact .inr rfl

/-- The function stands behind an empty line in a program. -/
theorem infix_program (laidOut : LaidOutProblem) (header : Header) :
    "" :: function laidOut.problem header <:+: program laidOut header :=
  Code.infix_append_spaced _ _ _

end Cpp

/-- The part of a stub that is the function: all of it, but in C++ only what stands behind the
comment and the lines that include headers. -/
def Language.functionPart : Language → Code → Code
  | .cpp, stub => stub.dropWhile Cpp.isPreamble
  | .javaScript, stub | .rust, stub => stub

/-- The function of a stub is found in a program under the same header. -/
theorem Language.functionPart_infix {language : Language} {laidOut : LaidOutProblem}
    {header : Header} {code : Code} (hheads : language.dialect.Heads laidOut.problem header)
    (hcode : language.programCode laidOut header = .ok code) :
    language.functionPart (language.stubCode laidOut.problem header) <:+: code := by
  cases language with
  | cpp =>
    cases hcode
    have hinfix := Cpp.infix_program laidOut header
    rw [Language.functionPart, Language.stubCode]
    rcases Cpp.dropWhile_stub hheads with hdrop | hdrop
    · rw [hdrop]
      exact (List.suffix_cons _ _).isInfix.trans hinfix
    · rw [hdrop]
      exact hinfix
  | javaScript =>
    obtain ⟨reading, -, hcode⟩ := bind_eq_ok.mp hcode
    cases hcode
    exact Code.infix_spaced (by simp [Language.functionPart, Language.stubCode])
  | rust =>
    cases hcode
    exact Code.infix_spaced (by simp [Language.functionPart, Language.stubCode])

/-! ## The lines of a stub -/

/-- A program includes all headers that a stub may include. -/
theorem Cpp.includeLines_sublist (problem : Problem) :
    (includeLines problem).Sublist (programLibraries.map includeLine ++ [""]) := by
  have hneeded : (libraries problem).Sublist programLibraries :=
    List.filter_sublist.trans (by decide)
  unfold includeLines
  split
  · exact List.nil_sublist _
  · exact (hneeded.map includeLine).append_right [""]

/-- A program has all lines of the stub in their order, and more. -/
theorem Language.stubCode_sublist {language : Language} {laidOut : LaidOutProblem}
    {header : Header} {code : Code} (h : language.programCode laidOut header = .ok code) :
    (language.stubCode laidOut.problem header).Sublist code ∧
      (language.stubCode laidOut.problem header).length < code.length := by
  cases language with
  | cpp =>
    cases h
    obtain ⟨pieces, hprogram⟩ : ∃ pieces, Cpp.program laidOut header =
        [Cpp.titleLine laidOut.problem.name, "// Build with: g++ -std=c++17 function.cpp"] ++
          (Cpp.programLibraries.map Cpp.includeLine ++ [""]) ++
          Code.spaced (Cpp.function laidOut.problem header :: pieces) := ⟨_, rfl⟩
    have hincludes := Cpp.includeLines_sublist laidOut.problem
    have hfunction := (Code.prefix_spaced_cons (Cpp.function laidOut.problem header) pieces).sublist
    have hle := hincludes.length_le
    have hle' := hfunction.length_le
    rw [hprogram, Language.stubCode, Cpp.stub]
    constructor
    · exact ((List.sublist_append_left [_] [_]).append hincludes).append hfunction
    · rw [List.length_append, List.length_append, List.length_append, List.length_append]
      simp only [List.length_cons, List.length_nil]
      omega
  | javaScript =>
    obtain ⟨reading, -, hcode⟩ := bind_eq_ok.mp h
    cases hcode
    exact Code.sublist_spaced_cons _ (by simp [Language.stubCode])
  | rust =>
    cases h
    exact Code.sublist_spaced_cons _ (by simp [Language.stubCode])

/-- A program is longer than the stub, by a byte or more. -/
theorem utf8ByteSize_text_emit_lt {laidOut : LaidOutProblem} {language : Language}
    {stub program : Code} (hstub : laidOut.problem.emit language = .ok stub)
    (hprogram : laidOut.emit language = .ok program) :
    stub.text.utf8ByteSize < program.text.utf8ByteSize := by
  obtain ⟨header, hheader, hstub⟩ := bind_eq_ok.mp hstub
  cases hstub
  rw [LaidOutProblem.emit, hheader] at hprogram
  obtain ⟨hsublist, hlength⟩ := Language.stubCode_sublist hprogram
  have hsize := Code.utf8ByteSize_text_of_sublist hsublist
  omega

/-! ## Stub and program of a document -/

/-- **Stubs and programs agree.** For a document that gives a problem with layouts, stub and program
fail together in each language, with the same error. Where the stub is made, so is the program, and
the function of the stub is one stretch of it, in its lines and in its text. -/
theorem emit_agrees {text : String} {laidOut : LaidOutProblem}
    (h : LaidOutProblem.parse text = .ok laidOut) (language : Language) :
    (∀ error, laidOut.emit language = .error error ↔
      laidOut.problem.emit language = .error error) ∧
    ∀ stub, laidOut.problem.emit language = .ok stub →
      ∃ program, laidOut.emit language = .ok program ∧
        language.functionPart stub <:+: program ∧
        ∃ before after, Code.text program =
          before ++ Code.text (language.functionPart stub) ++ after := by
  have hfits : laidOut.Fits := (LaidOutProblem.fits_of_parse h).2
  refine ⟨fun error => ?_, fun stub hstub => ?_⟩
  · rw [LaidOutProblem.emit_eq_error hfits, Problem.emit_eq_error]
  · obtain ⟨header, hheader, hstub⟩ := bind_eq_ok.mp hstub
    cases hstub
    have hheads := Dialect.heads_of_header hheader
    obtain ⟨program, hprogram⟩ := Language.programCode_eq_ok hfits hheads
    have hinfix := Language.functionPart_infix hheads hprogram
    exact ⟨program, bind_eq_ok.mpr ⟨header, hheader, hprogram⟩, hinfix, Code.text_of_infix hinfix⟩

/-- A document with one array that fills a line. -/
def sumDocument : String :=
  "Problem Name: \"Sum\"\nFunction Name: sum\nInput Field: xs int[]\nInput Format: xs line\n" ++
    "Output Field: int\n"

/-- The problem of that document. -/
def sumProblem : LaidOutProblem where
  problem := ⟨"Sum", "sum", [⟨"xs", .array .integer, 0⟩], .integer, "result"⟩
  inputs := [⟨⟨"xs", .array .integer, 0⟩, .line⟩]
  outputLayout := .line

theorem parse_sumDocument : LaidOutProblem.parse sumDocument = .ok sumProblem :=
  eq_ok_of_toOption (by decide +kernel)

/-- In that document, the C++ stub and what of it is found in the program. -/
theorem emit_agrees_sum :
    LaidOutProblem.parse sumDocument = .ok sumProblem ∧
    (∀ error, sumProblem.emit .cpp = .error error ↔ sumProblem.problem.emit .cpp = .error error) ∧
    ∃ program, sumProblem.emit .cpp = .ok program ∧
      ["", "int sum(std::vector<int>& xs) \x7b", "    // Implementation goes here",
        "    return \x7b\x7d;", "\x7d"] <:+: program := by
  obtain ⟨herror, hstub⟩ := emit_agrees parse_sumDocument .cpp
  have hcode : sumProblem.problem.emit .cpp = .ok ["// Sum", "#include <vector>", "",
      "int sum(std::vector<int>& xs) \x7b", "    // Implementation goes here",
      "    return \x7b\x7d;", "\x7d"] :=
    eq_ok_of_toOption (by decide +kernel)
  obtain ⟨program, hprogram, hinfix, -⟩ := hstub _ hcode
  exact ⟨parse_sumDocument, herror, program, hprogram, hinfix⟩

end StarterCode
