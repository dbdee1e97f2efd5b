import StarterCode.Proofs.Emission.Agreement
import StarterCode.Proofs.Emission.Expressible
import StarterCode.Proofs.Problem.Declared
import StarterCode.Proofs.Text.SnakeCase

/-!
# Emission with a name that was chosen

The name of a returned value that the document leaves unnamed is chosen while the document is read,
so that it differs from the names of the parameters as they stand there. The names are compared once
more when code is written, as the language writes them and with the name of the function among them,
and a name that was chosen gets no other treatment than one that was declared.

Most of what can happen to a name does not happen to this one. It is `result` with underscores
behind it, and no language reserves such a name or writes it in another way. What remains is a
clash, and that alone decides whether code is written. There is one when the function bears the name
that was chosen, and in Rust also when the function or a parameter takes this name in snake case.
-/

set_option autoImplicit false

namespace StarterCode

/-- The document leaves what is returned unnamed: on the line for it there is nothing but a type
expression. -/
def Document.LeavesOutputUnnamed (text : String) : Prop :=
  ∃ value ∈ valuesOf (labelledLines text) .outputField,
    ∃ type, TypeExpr.parse value.toList = .ok type

/-- The names of function and parameters, each written in some way. -/
def Problem.givenNames (rename : String → String) (problem : Problem) : List String :=
  rename problem.functionName :: problem.parameters.map (rename ·.name)

theorem Problem.namesBy_eq (problem : Problem) (rename : String → String) :
    problem.namesBy rename = problem.givenNames rename ++ [rename problem.outputName] :=
  rfl

/-! ## What is chosen -/

namespace Language

theorem written_of_not_isUpper (language : Language) {name : String}
    (h : ∀ c ∈ name.toList, c.isUpper = false) : language.written name = name := by
  cases language with
  | cpp | javaScript => rfl
  | rust => rw [written, Text.snakeCase, Text.snakeCaseAfter_of_not_isUpper h, String.ofList_toList]

/-- No language reserves a word that begins with `result`. -/
theorem not_isPrefixOf_of_mem_reserved (language : Language) :
    ∀ word ∈ language.dialect.reserved, "result".toList.isPrefixOf word.toList = false := by
  cases language <;> decide

/-- What is chosen for the returned value is written as it is, and it is free. -/
theorem written_defaultOutputName (language : Language) (taken : List String) :
    language.written (Problem.defaultOutputName taken) = Problem.defaultOutputName taken ∧
      Problem.defaultOutputName taken ∉ language.dialect.reserved := by
  obtain ⟨n, -, hname, -, -⟩ := Problem.exists_defaultOutputName taken
  rw [hname]
  constructor
  · apply written_of_not_isUpper
    intro c hc
    rw [Problem.toList_underscored, List.mem_append] at hc
    rcases hc with hc | hc
    · have hresult : ∀ c ∈ "result".toList, c.isUpper = false := by simp
      exact hresult c hc
    · rw [List.eq_of_mem_replicate hc]
      decide
  · intro hmem
    have hfront := language.not_isPrefixOf_of_mem_reserved _ hmem
    rw [Problem.toList_underscored,
      List.isPrefixOf_iff_prefix.mpr (List.prefix_append _ _)] at hfront
    cases hfront

end Language

/-- A document without a name for what is returned gives a problem with the name that is chosen. -/
theorem Problem.outputName_of_unnamed {text : String} {problem : Problem}
    (h : Problem.parse text = .ok problem) (hunnamed : Document.LeavesOutputUnnamed text) :
    problem.outputName = defaultOutputName (problem.parameters.map (·.name)) := by
  obtain ⟨_, _, line, declared, -, -, -, -, -, -, hline, hread, hname⟩ := ofLines_eq_ok.mp h
  obtain ⟨value, hvalue, type, htype⟩ := hunnamed
  rw [Document.valuesOf, onlyLine_eq_ok.mp hline, List.map_singleton, List.mem_singleton] at hvalue
  subst hvalue
  -- the whole value is tried as a type first, and that is the end of it
  rw [readOutput, htype, Except.ok.injEq, Prod.mk.injEq] at hread
  rw [← hread.1, outputNameFor, Except.ok.injEq] at hname
  exact hname.symm

/-! ## The check for clashes -/

section Clashes

variable {problem : Problem}

/-- With the names of function and parameters different and free, a name for the returned value that
is among them is all that is wrong. -/
theorem Dialect.header_of_clash {dialect : Dialect}
    (hnodup : (problem.givenNames dialect.rename).Nodup)
    (hfree : ∀ name ∈ problem.givenNames dialect.rename, name ∉ dialect.reserved)
    (hspelled : ∀ type ∈ problem.types, (dialect.spelling.spell? type).isSome = true)
    (hclash : dialect.rename problem.outputName ∈ problem.givenNames dialect.rename) :
    dialect.header problem = .error
      ⟨dialect.spelling.language, .outputName (dialect.rename problem.outputName),
        "return value (clashes after renaming)"⟩ := by
  obtain ⟨made, hwrites⟩ : ∃ made, List.Forall₂ dialect.Writes problem.parameters made :=
    exists_writes fun parameter hparameter =>
      hspelled _ (List.mem_append_left _ (List.mem_map_of_mem hparameter))
  have houtput := hfree _ hclash
  rw [Problem.givenNames, ← names_of_writes hwrites] at hnodup hfree hclash
  have hmade := parameterVariables_of_writes hwrites hnodup fun name hname =>
    hfree name (List.mem_cons_of_mem _ hname)
  -- the checks in front of the one that fails
  refine bind_eq_error.mpr (.inr ⟨(), checkIdentifier_eq_ok.mpr (hfree _ List.mem_cons_self), ?_⟩)
  refine bind_eq_error.mpr (.inr ⟨made, hmade, ?_⟩)
  refine bind_eq_error.mpr (.inr ⟨(), checkIdentifier_eq_ok.mpr houtput, ?_⟩)
  rw [if_pos (clashes_iff.mpr hclash)]
  rfl

variable (language : Language) (hnodup : (problem.givenNames language.written).Nodup)
  (hfree : ∀ name ∈ problem.givenNames language.written, name ∉ language.dialect.reserved)
  (hcustom : ∀ name, .custom name ∉ problem.nestedTypes)

include hnodup hfree hcustom

/-- A clash is reported. -/
theorem Problem.emit_of_clash
    (hclash : language.written problem.outputName ∈ problem.givenNames language.written) :
    problem.emit language = .error ⟨language, .outputName (language.written problem.outputName),
      "return value (clashes after renaming)"⟩ := by
  have hspelled := (Spelling.forall_isSome_spell?_iff language.custom_dialect).mpr hcustom
  rw [← language.rename_dialect] at hnodup hfree hclash
  have hheader := Dialect.header_of_clash hnodup hfree hspelled hclash
  rw [language.rename_dialect, language.language_dialect] at hheader
  exact Problem.emit_eq_error.mpr hheader

/-- Without a clash there is code, unless the name is reserved. -/
theorem Problem.exists_emit_of_no_clash
    (hreserved : language.written problem.outputName ∉ language.dialect.reserved)
    (hdifferent : language.written problem.outputName ∉ problem.givenNames language.written) :
    ∃ code, problem.emit language = .ok code := by
  obtain ⟨header, hheader⟩ : ∃ header, language.dialect.header problem = .ok header := by
    rw [language.exists_header_iff, problem.namesBy_eq]
    refine ⟨?_, ?_, hcustom⟩
    · rw [← List.concat_eq_append]
      exact hnodup.concat hdifferent
    · intro name hname
      rcases List.mem_append.mp hname with hgiven | houtput
      · exact hfree name hgiven
      · rw [List.mem_singleton.mp houtput]
        exact hreserved
  exact ⟨_, bind_eq_ok.mpr ⟨header, hheader, rfl⟩⟩

end Clashes

/-- **When a name that was chosen can be written.** Let a document leave what is returned unnamed,
with names for function and parameters that are different and free as the language writes them and
without a custom type. The chosen name is written as it is and not reserved. Code is written exactly
when it is not the written name of the function or of a parameter, and otherwise the error is about
this clash. Outside of Rust there is a clash when the function bears the chosen name, and else
none. -/
theorem emit_unnamed_iff {text : String} {problem : Problem} (language : Language)
    (hproblem : Problem.parse text = .ok problem)
    (hunnamed : Document.LeavesOutputUnnamed text)
    (hnodup : (problem.givenNames language.written).Nodup)
    (hfree : ∀ name ∈ problem.givenNames language.written, name ∉ language.dialect.reserved)
    (hcustom : ∀ name, .custom name ∉ problem.nestedTypes) :
    language.written problem.outputName = problem.outputName ∧
      problem.outputName ∉ language.dialect.reserved ∧
      ((∃ code, problem.emit language = .ok code) ↔
        problem.outputName ∉ problem.givenNames language.written) ∧
      (problem.outputName ∈ problem.givenNames language.written →
        problem.emit language = .error ⟨language, .outputName problem.outputName,
          "return value (clashes after renaming)"⟩) ∧
      (language ≠ .rust → (problem.outputName ∈ problem.givenNames language.written ↔
        problem.outputName = problem.functionName)) := by
  have hname := Problem.outputName_of_unnamed hproblem hunnamed
  obtain ⟨hwritten, hreserved⟩ :=
    language.written_defaultOutputName (problem.parameters.map (·.name))
  rw [← hname] at hwritten hreserved
  have hclash := problem.emit_of_clash language hnodup hfree hcustom
  have hdifferent := problem.exists_emit_of_no_clash language hnodup hfree hcustom
  rw [hwritten] at hclash hdifferent
  refine ⟨hwritten, hreserved, ⟨?_, hdifferent hreserved⟩, hclash, ?_⟩
  · rintro ⟨code, hcode⟩ hmem
    rw [hclash hmem] at hcode
    cases hcode
  · intro hrust
    have hparameters : problem.outputName ∉ problem.parameters.map (·.name) := by
      rw [hname]
      exact Problem.defaultOutputName_not_mem _
    have hgiven : problem.givenNames language.written =
        problem.functionName :: problem.parameters.map (·.name) := by
      cases language with
      | cpp | javaScript => rfl
      | rust => exact absurd rfl hrust
    rw [hgiven, List.mem_cons, or_iff_left hparameters]

/-- A document with a parameter that has the name chosen for the returned value in snake case. -/
def capitalDocument : String :=
  "Problem Name: \"R\"\nFunction Name: best\nInput Field: Result int\nOutput Field: int"

/-- The problem of that document. -/
def capitalProblem : Problem :=
  ⟨"R", "best", [⟨"Result", .integer, 0⟩], .integer, "result"⟩

theorem emit_unnamed_iff_capital :
    Problem.parse capitalDocument = .ok capitalProblem ∧
      (∃ code, capitalProblem.emit .cpp = .ok code) ∧
      capitalProblem.emit .rust =
        .error ⟨.rust, .outputName "result", "return value (clashes after renaming)"⟩ := by
  have hlines : Document.labelledLines capitalDocument = [
      ⟨.problemName, "\"R\"", 1⟩, ⟨.functionName, "best", 2⟩, ⟨.inputField, "Result int", 3⟩,
      ⟨.outputField, "int", 4⟩] := by
    decide +kernel
  have hproblem : Problem.parse capitalDocument = .ok capitalProblem := by
    rw [Problem.parse, hlines]
    exact eq_ok_of_toOption (by decide +kernel)
  have hunnamed : Document.LeavesOutputUnnamed capitalDocument := by
    rw [Document.LeavesOutputUnnamed, hlines]
    exact ⟨"int", by decide, .integer, eq_ok_of_toOption (by decide +kernel)⟩
  have hcustom : ∀ name, .custom name ∉ capitalProblem.nestedTypes := by
    intro name hname
    simp [capitalProblem, Problem.nestedTypes, Problem.types, ValueType.walk] at hname
  obtain ⟨-, -, hcpp, -, -⟩ :=
    emit_unnamed_iff .cpp hproblem hunnamed (by decide) (by decide) hcustom
  obtain ⟨-, -, -, hrust, -⟩ :=
    emit_unnamed_iff .rust hproblem hunnamed (by decide) (by decide) hcustom
  exact ⟨hproblem, hcpp.mpr (by decide), hrust (by decide)⟩

/-- A document with a function that bears the name chosen for the returned value. -/
def namesakeDocument : String :=
  "Problem Name: \"R\"\nFunction Name: result\nInput Field: a int\nOutput Field: int"

/-- The problem of that document. -/
def namesakeProblem : Problem :=
  ⟨"R", "result", [⟨"a", .integer, 0⟩], .integer, "result"⟩

/-- A chosen name may be all that is wrong: in no language is there code for that document, though
its names are different and free and it has no custom type. -/
theorem not_exists_emit_namesake :
    Problem.parse namesakeDocument = .ok namesakeProblem ∧
      Document.LeavesOutputUnnamed namesakeDocument ∧
      (∀ name, .custom name ∉ namesakeProblem.nestedTypes) ∧
      ∀ language : Language, (namesakeProblem.givenNames language.written).Nodup ∧
        (∀ name ∈ namesakeProblem.givenNames language.written,
          name ∉ language.dialect.reserved) ∧
        ¬ ∃ code, namesakeProblem.emit language = .ok code := by
  have hlines : Document.labelledLines namesakeDocument = [
      ⟨.problemName, "\"R\"", 1⟩, ⟨.functionName, "result", 2⟩, ⟨.inputField, "a int", 3⟩,
      ⟨.outputField, "int", 4⟩] := by
    decide +kernel
  refine ⟨?_, ?_, ?_, ?_⟩
  · rw [Problem.parse, hlines]
    exact eq_ok_of_toOption (by decide +kernel)
  · rw [Document.LeavesOutputUnnamed, hlines]
    exact ⟨"int", by decide, .integer, eq_ok_of_toOption (by decide +kernel)⟩
  · intro name hname
    simp [namesakeProblem, Problem.nestedTypes, Problem.types, ValueType.walk] at hname
  · intro language
    refine ⟨by cases language <;> decide, by cases language <;> decide, ?_⟩
    rintro ⟨code, hcode⟩
    obtain ⟨error, herror⟩ : ∃ error, namesakeProblem.emit language = .error error :=
      exists_eq_error_of_toOption (by cases language <;> decide +kernel)
    rw [herror] at hcode
    cases hcode

end StarterCode
