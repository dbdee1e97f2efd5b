import StarterCode.Proofs.Emission.Agreement

/-!
# The helper that reads lines

A program holds the function that reads an array from one line only if it has an input to read in
this way. The function is told by the line that begins its definition, which stands at the margin.
No other piece of a program has that line: most lines are indented, and those at the margin begin
otherwise, or they are always the same and are looked through once.
-/

set_option autoImplicit false

namespace StarterCode

namespace Language

/-- The code of the helper. -/
def lineHelper : Language → Code
  | .cpp => Cpp.readLineHelper
  | .javaScript => JavaScript.readLineHelper
  | .rust => Rust.readLineHelper

/-- The line that begins the definition of the function that reads an array from one line. -/
def lineHelperHead : Language → String
  | .cpp => "void readLine(TokenReader& reader, std::vector<T>& out) \x7b"
  | .javaScript =>
    "const readLine = (parseToken) => (reader) => reader.lineTokens().map(parseToken);"
  | .rust => "fn read_line<T: ParseToken>(reader: &mut TokenReader) -> Vec<T> \x7b"

theorem lineHelperHead_mem (language : Language) :
    language.lineHelperHead ∈ language.lineHelper := by
  cases language <;> decide

theorem atMargin_lineHelperHead (language : Language) : Code.AtMargin language.lineHelperHead := by
  cases language
  all_goals exact ⟨_, rfl, by decide, by decide⟩

/-- The head of the helper begins a block only if the header of the block is its text. -/
theorem not_mem_blockEnding (language : Language) {header closing : String} {body : Code} {c : Char}
    (hheader : header.toList.head? = some c)
    (hne : language.lineHelperHead.toList.head? ≠ some c) :
    language.lineHelperHead ∉ Code.blockEnding header body closing := by
  intro hmem
  have heq := language.atMargin_lineHelperHead.eq_of_mem_blockEnding hmem
  obtain ⟨rest, hrest⟩ := List.head?_eq_some_iff.mp hheader
  rw [heq, String.toList_append, hrest] at hne
  exact hne rfl

end Language

/-! ## Pieces without the helper -/

namespace Cpp

theorem lineHelperHead_not_mem_function {problem : Problem} {header : Header}
    (hheads : dialect.Heads problem header) :
    Language.cpp.lineHelperHead ∉ function problem header := by
  obtain ⟨c, hletter, hhead⟩ := head?_spell? hheads.spell?_eq
  have hne : Language.cpp.lineHelperHead.toList.head? ≠ some c := by
    intro heq
    obtain rfl : 'v' = c := Option.some.inj heq
    exact absurd hletter (by decide)
  refine Language.cpp.not_mem_blockEnding (c := c) ?_ hne
  simp [hhead]

theorem lineHelperHead_not_mem_main (laidOut : LaidOutProblem) (header : Header) :
    Language.cpp.lineHelperHead ∉ mainFunction laidOut header :=
  Language.cpp.not_mem_blockEnding (c := 'i') rfl (by decide)

/-- A program without an input that fills a line is made of pieces without the head. -/
theorem lineHelperHead_not_mem_program {laidOut : LaidOutProblem} {header : Header}
    (hheads : dialect.Heads laidOut.problem header) (hnone : readsLines laidOut = false) :
    Language.cpp.lineHelperHead ∉ program laidOut header := by
  -- of the lines in front, the title alone depends on the problem, and it begins as a comment
  have hfront : Language.cpp.lineHelperHead ∉
      titleLine laidOut.problem.name :: "// Build with: g++ -std=c++17 function.cpp" ::
        (programLibraries.map includeLine ++ [""]) := by
    have htitle : Language.cpp.lineHelperHead ≠ titleLine laidOut.problem.name := by
      intro heq
      have hhead := congrArg (·.toList.head?) heq
      simp [titleLine, Language.lineHelperHead] at hhead
    have hfixed : Language.cpp.lineHelperHead ∉ "// Build with: g++ -std=c++17 function.cpp" ::
        (programLibraries.map includeLine ++ [""]) := by
      decide
    exact List.not_mem_cons_of_ne_of_not_mem htitle hfixed
  have hwriting : Language.cpp.lineHelperHead ∉ writeLinesHelper := by decide
  have hpieces : ∀ piece ∈ [function laidOut.problem header, tokenReader, readHelpers,
      writeHelpers] ++ (if laidOut.outputLayout = .lines then [writeLinesHelper] else []) ++
      [mainFunction laidOut header], Language.cpp.lineHelperHead ∉ piece := by
    have hfixed : ∀ piece ∈ [tokenReader, readHelpers, writeHelpers],
        Language.cpp.lineHelperHead ∉ piece := by
      set_option maxRecDepth 1000 in decide
    intro piece hpiece
    rw [List.mem_append, List.mem_append, List.mem_cons, List.mem_singleton] at hpiece
    rcases hpiece with ((rfl | hpiece) | hpiece) | rfl
    · exact lineHelperHead_not_mem_function hheads
    · exact hfixed piece hpiece
    · split at hpiece
      · rw [List.mem_singleton.mp hpiece]
        exact hwriting
      · cases hpiece
    · exact lineHelperHead_not_mem_main laidOut header
  intro hmem
  rw [program, hnone, List.mem_append] at hmem
  rcases hmem with hmem | hmem
  · exact hfront (by simpa using hmem)
  · rw [Code.mem_spaced Language.cpp.atMargin_lineHelperHead.ne_empty] at hmem
    obtain ⟨piece, hpiece, hmem⟩ := hmem
    exact hpieces piece (by simpa using hpiece) hmem

end Cpp

namespace JavaScript

theorem lineHelperHead_not_mem_stub (problem : Problem) (header : Header) :
    Language.javaScript.lineHelperHead ∉ stub problem header := by
  -- a stub has comments and its function, and no comment begins with this letter
  have hhead : Language.javaScript.lineHelperHead.toList.head? = some 'c' := rfl
  intro hmem
  simp only [stub, List.mem_append, List.mem_cons, List.mem_map, List.not_mem_nil, or_false] at hmem
  rcases hmem with (((hmem | hmem | hmem) | ⟨written, -, hmem⟩) | hmem | hmem) | hmem
  · rw [hmem] at hhead
    exact absurd hhead (by decide)
  · rw [hmem] at hhead
    simp at hhead
  · rw [hmem] at hhead
    exact absurd hhead (by decide)
  · rw [← hmem] at hhead
    simp [parameterTag] at hhead
  · rw [hmem] at hhead
    simp at hhead
  · rw [hmem] at hhead
    exact absurd hhead (by decide)
  · refine Language.javaScript.not_mem_blockEnding (c := 'f') ?_ (by decide) hmem
    simp

theorem lineHelperHead_not_mem_program {laidOut : LaidOutProblem} {header : Header} {code : Code}
    (hcode : program laidOut header = .ok code) (hnone : readsLines laidOut = false) :
    Language.javaScript.lineHelperHead ∉ code := by
  obtain ⟨reading, -, hcode⟩ := bind_eq_ok.mp hcode
  cases hcode
  have hfixed : ∀ piece ∈ [["const fs = require('fs');"], tokenReader, readHelpers, formatHelper,
      ["main();"]], Language.javaScript.lineHelperHead ∉ piece := by
    decide
  have hmain : Language.javaScript.lineHelperHead ∉ mainFunction laidOut header reading :=
    Language.javaScript.not_mem_blockEnding (c := 'f') rfl (by decide)
  intro hmem
  rw [hnone, Code.mem_spaced Language.javaScript.atMargin_lineHelperHead.ne_empty] at hmem
  obtain ⟨piece, hpiece, hmem⟩ := hmem
  simp only [Bool.false_eq_true, if_false, List.append_nil, List.mem_append, List.mem_cons,
    List.not_mem_nil, or_false] at hpiece
  rcases hpiece with (rfl | rfl | rfl | rfl) | rfl | rfl | rfl
  · exact hfixed _ (by simp) hmem
  · exact lineHelperHead_not_mem_stub laidOut.problem header hmem
  · exact hfixed _ (by simp) hmem
  · exact hfixed _ (by simp) hmem
  · exact hfixed _ (by simp) hmem
  · exact hmain hmem
  · exact hfixed _ (by simp) hmem

end JavaScript

namespace Rust

theorem lineHelperHead_not_mem_stub (problem : Problem) (header : Header) :
    Language.rust.lineHelperHead ∉ stub problem header := by
  intro hmem
  rw [stub, List.mem_append, List.mem_singleton] at hmem
  rcases hmem with hmem | hmem
  · have hhead := congrArg (·.toList.head?) hmem
    simp [Language.lineHelperHead] at hhead
  · refine Language.rust.not_mem_blockEnding (c := 'p') ?_ (by decide) hmem
    simp

theorem lineHelperHead_not_mem_tupleCode (arity : Nat) :
    Language.rust.lineHelperHead ∉ tupleCode arity := by
  intro hmem
  rw [tupleCode, Code.mem_spaced Language.rust.atMargin_lineHelperHead.ne_empty] at hmem
  obtain ⟨piece, hpiece, hmem⟩ := hmem
  simp only [List.mem_cons, List.not_mem_nil, or_false] at hpiece
  rcases hpiece with rfl | rfl
  all_goals
    refine Language.rust.not_mem_blockEnding (c := 'i') ?_ (by decide) hmem
    simp

theorem lineHelperHead_not_mem_program {laidOut : LaidOutProblem} {header : Header}
    (hnone : readsLines laidOut = false) :
    Language.rust.lineHelperHead ∉ program laidOut header := by
  have hfixed : ∀ piece ∈ [["use std::io::\x7bself, Read\x7d;"], tokenReader, readHelpers,
      writeHelpers], Language.rust.lineHelperHead ∉ piece := by
    decide
  -- both heads begin with the same letter, so here the whole line is compared
  have hmain : Language.rust.lineHelperHead ∉ mainFunction laidOut header := by
    intro hmem
    have heq := Language.rust.atMargin_lineHelperHead.eq_of_mem_blockEnding hmem
    exact absurd heq (by decide)
  intro hmem
  rw [program, hnone, Code.mem_spaced Language.rust.atMargin_lineHelperHead.ne_empty] at hmem
  obtain ⟨piece, hpiece, hmem⟩ := hmem
  simp only [Bool.false_eq_true, if_false, List.append_nil, List.mem_append, List.mem_cons,
    List.mem_map, List.not_mem_nil, or_false] at hpiece
  rcases hpiece with (((rfl | rfl | rfl | rfl) | rfl) | ⟨arity, -, rfl⟩) | rfl
  · exact hfixed _ (by decide) hmem
  · exact lineHelperHead_not_mem_stub laidOut.problem header hmem
  · exact hfixed _ (by simp) hmem
  · exact hfixed _ (by simp) hmem
  · exact hfixed _ (by simp) hmem
  · exact lineHelperHead_not_mem_tupleCode arity hmem
  · exact hmain hmem

end Rust

/-! ## Programs with and without the helper -/

namespace Language

variable {language : Language} {laidOut : LaidOutProblem} {header : Header} {code : Code}

/-- The helper is in the program of a problem with an input that fills a line. -/
theorem lineHelper_infix_programCode (hcode : language.programCode laidOut header = .ok code)
    (hsome : readsLines laidOut = true) : language.lineHelper <:+: code := by
  cases language with
  | cpp =>
    cases hcode
    rw [lineHelper, Cpp.program, hsome]
    exact (Code.infix_spaced (by simp)).trans (List.suffix_append _ _).isInfix
  | javaScript =>
    obtain ⟨reading, -, hcode⟩ := bind_eq_ok.mp hcode
    cases hcode
    exact Code.infix_spaced (by simp [lineHelper, hsome])
  | rust =>
    cases hcode
    exact Code.infix_spaced (by simp [lineHelper, hsome])

theorem lineHelperHead_not_mem (hheads : language.dialect.Heads laidOut.problem header)
    (hcode : language.programCode laidOut header = .ok code)
    (hnone : readsLines laidOut = false) : language.lineHelperHead ∉ code := by
  cases language with
  | cpp =>
    cases hcode
    exact Cpp.lineHelperHead_not_mem_program hheads hnone
  | javaScript => exact JavaScript.lineHelperHead_not_mem_program hcode hnone
  | rust =>
    cases hcode
    exact Rust.lineHelperHead_not_mem_program hnone

/-- **The helper is there when it is needed.** A program has the helper, and the line that begins
its definition, exactly when some input fills a line. -/
theorem lineHelper_iff (hheads : language.dialect.Heads laidOut.problem header)
    (hcode : language.programCode laidOut header = .ok code) :
    (language.lineHelper <:+: code ↔ readsLines laidOut = true) ∧
      (language.lineHelperHead ∈ code ↔ readsLines laidOut = true) := by
  have hmem : language.lineHelper <:+: code → language.lineHelperHead ∈ code := fun h =>
    h.subset language.lineHelperHead_mem
  have hneeded : language.lineHelperHead ∈ code → readsLines laidOut = true := by
    intro h
    by_contra hnone
    exact lineHelperHead_not_mem hheads hcode (Bool.eq_false_iff.mpr hnone) h
  exact ⟨⟨fun h => hneeded (hmem h), lineHelper_infix_programCode hcode⟩,
    ⟨hneeded, fun h => hmem (lineHelper_infix_programCode hcode h)⟩⟩

end Language

end StarterCode
