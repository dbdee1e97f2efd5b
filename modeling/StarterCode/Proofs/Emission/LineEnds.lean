import StarterCode.Proofs.Emission.DocComment
import StarterCode.Proofs.Emission.Includes
import StarterCode.Proofs.Emission.Tuples

/-!
# Source code and the lines of its text

What is written to a file is the text of the code. When no line of the code has a line end inside of
it, the lines of this text are the lines of the code again, so that whatever is known of the code,
what stands in it and in which order, can be read off the text.

For a problem that a document declares this is so, in all languages, for stubs and for programs
(`Problem.lines_emit`, `LaidOutProblem.lines_emit`). Its names are identifiers, its types are
spelled with words from a table, and all other parts are fixed texts, numbers, and the name of the
problem, in which line ends have become blanks.
-/

set_option autoImplicit false

namespace StarterCode

open Code

variable {c : Char} {header : Header}

/-! ## Programs in C++ -/

namespace Cpp

theorem lacks_mainFunction (hc : c = '\n' ∨ c = '\r') (h : header.Lacks c)
    (laidOut : LaidOutProblem) : Lacks c (mainFunction laidOut header) := by
  have hreading : Lacks c ((readings laidOut header).flatMap readingLines) := by
    intro line hline
    obtain ⟨⟨input, written⟩, hmem, hline⟩ := List.mem_flatMap.mp hline
    have hwritten : written ∈ header.parameters := (List.of_mem_zip hmem).2
    have hname := h.parameterName hwritten
    have htype := h.types written hwritten
    have hreader : c ∉ (readerFor input.layout).toList := by
      rcases hc with rfl | rfl <;> cases input.layout <;> decide
    have hlines : Lacks c (readingLines (input, written)) := by
      rcases hc with rfl | rfl <;> simp [Lacks, readingLines, braced, hname, htype, hreader]
    exact hlines line hline
  have hcall : Lacks c ["", callLine header] := by
    have harguments := h.arguments (by rcases hc with rfl | rfl <;> decide)
    rcases hc with rfl | rfl <;>
      simp [Lacks, callLine, h.outputName, h.returnType, h.functionName, harguments]
  have hwriting : Lacks c (writingLines header laidOut.outputLayout) := by
    have houtput := h.outputName
    cases laidOut.outputLayout <;> rcases hc with rfl | rfl <;>
      simp [Lacks, writingLines, houtput]
  have hreader : Lacks c ["TokenReader reader(std::cin);", ""] := by
    rcases hc with rfl | rfl <;> decide
  have hreturn : Lacks c ["return 0;"] := by
    rcases hc with rfl | rfl <;> decide
  have hbody := lacks_append.mpr ⟨lacks_append.mpr ⟨lacks_append.mpr ⟨lacks_append.mpr
    ⟨hreader, hreading⟩, hcall⟩, hwriting⟩, hreturn⟩
  exact .block_of_lineEnd hc (by rcases hc with rfl | rfl <;> decide) hbody

/-- The pieces of programs that do not depend on the problem. -/
def fixedPieces : List Code := [
  "// Build with: g++ -std=c++17 function.cpp" :: programLibraries.map includeLine ++ [""],
  tokenReader, readHelpers, readLineHelper, writeHelpers, writeLinesHelper]

theorem lacks_fixedPieces (hc : c = '\n' ∨ c = '\r') : ∀ piece ∈ fixedPieces, Lacks c piece := by
  rcases hc with rfl | rfl
  all_goals exact lacks_of_not_mem_bytes (by decide) (by decide +kernel)

theorem lacks_program (hc : c = '\n' ∨ c = '\r') (h : header.Lacks c)
    (laidOut : LaidOutProblem) : Lacks c (program laidOut header) := by
  have hfixed := lacks_fixedPieces hc
  have hfront : Lacks c ([titleLine laidOut.problem.name] ++
      ("// Build with: g++ -std=c++17 function.cpp" :: programLibraries.map includeLine ++ [""])) :=
    lacks_append.mpr ⟨lacks_titleLine hc laidOut.problem.name, hfixed _ List.mem_cons_self⟩
  refine lacks_append.mpr ⟨hfront, Lacks.spaced ?_⟩
  intro piece hpiece
  simp only [List.mem_append, List.mem_cons, List.mem_ite_nil_right, List.not_mem_nil,
    or_false] at hpiece
  rcases hpiece with (((rfl | rfl) | rfl | ⟨-, rfl⟩) | rfl | ⟨-, rfl⟩) | rfl
  · exact lacks_function hc h
  · exact hfixed _ (by simp [fixedPieces])
  · exact hfixed _ (by simp [fixedPieces])
  · exact hfixed _ (by simp [fixedPieces])
  · exact hfixed _ (by simp [fixedPieces])
  · exact hfixed _ (by simp [fixedPieces])
  · exact lacks_mainFunction hc h laidOut

end Cpp

/-! ## Stubs and programs in JavaScript -/

namespace JavaScript

theorem lacks_stub (hc : c = '\n' ∨ c = '\r') (h : header.Lacks c) (problem : Problem) :
    Lacks c (stub problem header) := by
  have hcomment := not_mem_commentText hc problem.name
  have hlines : Lacks c (docLines problem header) := by
    intro line hline
    simp only [docLines, List.mem_append, List.mem_cons, List.mem_map, List.not_mem_nil,
      or_false] at hline
    rcases hline with ((rfl | rfl) | ⟨written, hwritten, rfl⟩) | rfl
    · rcases hc with rfl | rfl <;> simp [hcomment]
    · rcases hc with rfl | rfl <;> decide
    · have hname := h.parameterName hwritten
      have htype := h.types written hwritten
      rcases hc with rfl | rfl <;> simp [parameterTag, braced, hname, htype]
    · have htype := h.returnType
      rcases hc with rfl | rfl <;> simp [braced, htype]
  rw [stub_eq, lacks_append, lacks_cons, lacks_cons]
  refine ⟨⟨?_, hlines⟩, ?_, lacks_emptyFunction (.inr hc) h⟩
  · rcases hc with rfl | rfl <;> decide
  · rcases hc with rfl | rfl <;> decide

theorem lacks_program (hc : c = '\n' ∨ c = '\r') (h : header.Lacks c) {laidOut : LaidOutProblem}
    {code : Code} (hcode : program laidOut header = .ok code) : Lacks c code := by
  obtain ⟨front, back, rfl, hfront, hback⟩ := exists_eq_of_program (.inr hc) h hcode
  exact lacks_append.mpr ⟨lacks_append.mpr ⟨hfront, lacks_stub hc h laidOut.problem⟩, hback⟩

end JavaScript

/-! ## All languages -/

namespace Language

theorem lacks_stubCode (language : Language) (hc : c = '\n' ∨ c = '\r') (h : header.Lacks c)
    (problem : Problem) : Lacks c (language.stubCode problem header) := by
  cases language with
  | cpp => exact Cpp.lacks_stub hc h
  | javaScript => exact JavaScript.lacks_stub hc h problem
  | rust => exact Rust.lacks_stub hc h problem

theorem lacks_programCode {language : Language} (hc : c = '\n' ∨ c = '\r') (h : header.Lacks c)
    {laidOut : LaidOutProblem} {code : Code}
    (hcode : language.programCode laidOut header = .ok code) : Lacks c code := by
  cases language with
  | cpp =>
    cases hcode
    exact Cpp.lacks_program hc h laidOut
  | javaScript => exact JavaScript.lacks_program hc h hcode
  | rust =>
    cases hcode
    exact Rust.lacks_program hc h laidOut

end Language

/-- **The lines of a stub.** The lines of its text are those of its code. -/
theorem Problem.lines_emit {text : String} {problem : Problem} {language : Language} {code : Code}
    (hproblem : Problem.parse text = .ok problem) (hcode : problem.emit language = .ok code) :
    Text.lines code.text.toList = code.map String.toList := by
  obtain ⟨header, hheader, hcode⟩ := bind_eq_ok.mp hcode
  cases hcode
  have hheads := Dialect.heads_of_header hheader
  exact lines_text_of_lacks fun _ hc =>
    language.lacks_stubCode hc (language.lacks_lineEnd hproblem hheads hc) problem

/-- **The lines of a program.** The lines of its text are those of its code. -/
theorem LaidOutProblem.lines_emit {text : String} {laidOut : LaidOutProblem} {language : Language}
    {code : Code} (hlaidOut : LaidOutProblem.parse text = .ok laidOut)
    (hcode : laidOut.emit language = .ok code) :
    Text.lines code.text.toList = code.map String.toList := by
  obtain ⟨header, hheader, hcode⟩ := bind_eq_ok.mp hcode
  have hproblem := (LaidOutProblem.fits_of_parse hlaidOut).1
  have hheads := Dialect.heads_of_header hheader
  exact lines_text_of_lacks fun _ hc =>
    Language.lacks_programCode hc (language.lacks_lineEnd hproblem hheads hc) hcode

end StarterCode
