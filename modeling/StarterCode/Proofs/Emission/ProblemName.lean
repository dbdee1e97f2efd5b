import StarterCode.Proofs.Document.Insertion
import StarterCode.Proofs.Emission.Comment

/-!
# What depends on the name of a problem

The name of a problem is not used for code. It stands in one line of a comment, `Language.nameLine`,
and nothing else in a stub or a program depends on it: neither the header, which is where most
errors are found, nor the functions that read the inputs, nor any other line.

So code as a function of the name is of a simple form, `VariesInNameLine`: lines in front of the
comment line and lines behind it that are the same for all names. A stub is of this form, and a
program keeps it, because what a program puts round the stub does not depend on the name. Since the
comment line has no line end in it, whatever the name, it is one line of the text as well.
-/

set_option autoImplicit false

namespace StarterCode

/-- The line of a comment that carries the name of the problem. -/
def Language.nameLine (language : Language) (name : String) : String :=
  match language with
  | .cpp => Cpp.titleLine name
  | .javaScript => " * " ++ commentText name
  | .rust => "/// " ++ commentText name

/-- The line has no line end in it. -/
theorem Language.not_mem_nameLine (language : Language) (name : String) :
    '\n' ∉ (language.nameLine name).toList ∧ '\r' ∉ (language.nameLine name).toList := by
  have hfeed := not_mem_commentText (.inl rfl) name
  have hreturn := not_mem_commentText (.inr rfl) name
  cases language with
  | cpp => simp [nameLine, Cpp.titleLine, hfeed, hreturn]
  | javaScript => simp [nameLine, hfeed, hreturn]
  | rust => simp [nameLine, hfeed, hreturn]

/-! ## Code as a function of the name -/

/-- For all names the code is the same but for the line with the name. -/
def VariesInNameLine (language : Language) (code : String → Code) : Prop :=
  ∃ front back, ∀ name, code name = front ++ language.nameLine name :: back

/-- A piece behind the first one may vary. -/
theorem VariesInNameLine.spaced {language : Language} {code : String → Code}
    (h : VariesInNameLine language code) (first third : Code) (rest : List Code) :
    VariesInNameLine language fun name => Code.spaced (first :: code name :: third :: rest) := by
  obtain ⟨front, back, hcode⟩ := h
  refine ⟨first ++ "" :: front, back ++ "" :: Code.spaced (third :: rest), ?_⟩
  intro name
  simp only [Code.spaced_cons_cons, hcode, List.append_assoc, List.cons_append]

namespace Language

theorem stubCode_varies (language : Language) (problem : Problem) (header : Header) :
    VariesInNameLine language fun name =>
      language.stubCode { problem with name := name } header := by
  cases language with
  | cpp => exact ⟨[], Cpp.includeLines problem ++ Cpp.function problem header, fun _ => rfl⟩
  | javaScript =>
    refine ⟨["/**"], " *" :: (header.parameters.map JavaScript.parameterTag ++
      [" * @returns " ++ Code.braced header.returnType, " */"] ++
      Code.block ("function " ++ header.functionName ++ "(" ++ header.arguments ++ ")")
        [placeholder]), ?_⟩
    intro name
    simp [stubCode, JavaScript.stub, nameLine]
  | rust => exact ⟨[], _, fun _ => rfl⟩

/-- Whether a program is written does not depend on the name, and a program that is written varies
in the line with the name. -/
theorem programCode_varies (language : Language) (laidOut : LaidOutProblem) (header : Header) :
    (∃ error, ∀ name, language.programCode
      { laidOut with problem := { laidOut.problem with name := name } } header = .error error) ∨
    ∃ code, VariesInNameLine language code ∧ ∀ name, language.programCode
      { laidOut with problem := { laidOut.problem with name := name } } header =
        .ok (code name) := by
  have hstub := language.stubCode_varies laidOut.problem header
  cases language with
  | cpp =>
    refine .inr ⟨fun name => Cpp.program
      { laidOut with problem := { laidOut.problem with name := name } } header, ?_, fun _ => rfl⟩
    exact ⟨[], (Cpp.program laidOut header).tail, fun _ => rfl⟩
  | javaScript =>
    -- reading the inputs is all that can fail
    cases hreading : (readings laidOut header).mapM JavaScript.readingLine with
    | error error => exact .inl ⟨error, fun _ => bind_eq_error.mpr (.inl hreading)⟩
    | ok reading =>
      have hprogram := hstub.spaced ["const fs = require('fs');"] JavaScript.tokenReader
        ([JavaScript.readHelpers] ++
          (if readsLines laidOut then [JavaScript.readLineHelper] else []) ++
          [JavaScript.formatHelper, JavaScript.mainFunction laidOut header reading, ["main();"]])
      exact .inr ⟨_, hprogram, fun _ => bind_eq_ok.mpr ⟨reading, hreading, rfl⟩⟩
  | rust =>
    have hprogram := hstub.spaced ["use std::io::" ++ Code.braced "self, Read" ++ ";"]
      Rust.tokenReader
      ([Rust.readHelpers] ++ (if readsLines laidOut then [Rust.readLineHelper] else []) ++
        [Rust.writeHelpers] ++ (Rust.arities laidOut.problem).map Rust.tupleCode ++
        [Rust.mainFunction laidOut header])
    exact .inr ⟨_, hprogram, fun _ => rfl⟩

end Language

/-! ## Lines of the text -/

/-- A line of code without line ends is a line of the text, between those of the code in front of it
and behind it. These may have line ends in them. -/
theorem Code.lines_text {line : String} (hfeed : '\n' ∉ line.toList) (hreturn : '\r' ∉ line.toList)
    (front back : Code) :
    Text.lines (Code.text (front ++ line :: back)).toList =
      Text.lines (Code.text front).toList ++ line.toList :: Text.lines (Code.text back).toList := by
  have hline : Text.dropReturn line.toList = line.toList :=
    if_neg fun hlast => hreturn (List.mem_of_getLast? hlast)
  induction front with
  | nil =>
    rw [List.nil_append, Code.toList_text_cons, Text.lines_append_cons hfeed, hline]
    rfl
  | cons first front ih =>
    rw [List.cons_append, Code.toList_text_cons, Code.toList_text_cons, Text.lines_append_feed,
      Text.lines_append_feed, ih, List.append_assoc]

/-! ## Two names -/

/-- What is written under two names: the same error, or code with the same lines in front of the
line with the name and the same lines behind it. The lines of the text are the same in this way
too. -/
def SameUpToName (language : Language) (name name' : String)
    (result result' : Except EmissionError Code) : Prop :=
  (∃ error, result = .error error ∧ result' = .error error) ∨
  ∃ front back,
    result = .ok (front ++ language.nameLine name :: back) ∧
    result' = .ok (front ++ language.nameLine name' :: back) ∧
    ∃ before after, ∀ one, Text.lines (Code.text (front ++ language.nameLine one :: back)).toList =
      before ++ (language.nameLine one).toList :: after

theorem VariesInNameLine.sameUpToName {language : Language} {code : String → Code}
    (h : VariesInNameLine language code) (name name' : String) :
    SameUpToName language name name' (.ok (code name)) (.ok (code name')) := by
  obtain ⟨front, back, hcode⟩ := h
  refine .inr ⟨front, back, by rw [hcode], by rw [hcode],
    Text.lines (Code.text front).toList, Text.lines (Code.text back).toList, ?_⟩
  intro one
  obtain ⟨hfeed, hreturn⟩ := language.not_mem_nameLine one
  exact Code.lines_text hfeed hreturn front back

/-- **The name affects one line of a comment.** Stubs of two problems that differ in their names
alone are the same but for the line of a comment that carries the name, which is at the same place
in both, or none is written, for the same reason. The same holds of programs. -/
theorem emit_sameUpToName (language : Language) (name' : String) :
    (∀ problem : Problem, SameUpToName language problem.name name' (problem.emit language)
      (Problem.emit { problem with name := name' } language)) ∧
    ∀ laidOut : LaidOutProblem,
      SameUpToName language laidOut.problem.name name' (laidOut.emit language)
        (LaidOutProblem.emit
          { laidOut with problem := { laidOut.problem with name := name' } } language) := by
  -- the header is made of everything but the name
  have hheader : ∀ (problem : Problem) (name : String),
      language.dialect.header { problem with name := name } = language.dialect.header problem :=
    fun _ _ => rfl
  constructor
  · intro problem
    rw [Problem.emit, Problem.emit, hheader problem name']
    cases language.dialect.header problem with
    | error error => exact .inl ⟨error, rfl, rfl⟩
    | ok header => exact (language.stubCode_varies problem header).sameUpToName problem.name name'
  · intro laidOut
    rw [LaidOutProblem.emit, LaidOutProblem.emit, hheader laidOut.problem name']
    cases language.dialect.header laidOut.problem with
    | error error => exact .inl ⟨error, rfl, rfl⟩
    | ok header =>
      rcases language.programCode_varies laidOut header with
        ⟨error, hfails⟩ | ⟨code, hvaries, hcode⟩
      · exact .inl ⟨error, hfails laidOut.problem.name, hfails name'⟩
      · have hsame := hvaries.sameUpToName laidOut.problem.name name'
        rw [← hcode, ← hcode] at hsame
        exact hsame

end StarterCode
