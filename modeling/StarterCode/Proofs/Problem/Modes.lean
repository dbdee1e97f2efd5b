import StarterCode.Proofs.Problem.Blame
import StarterCode.Proofs.Problem.Hints

/-!
# Stubs and programs from one document

A stub and a program are made from the same problem, and a program needs two things more: a
parameter, and layouts that can be read. So a document that gives a program gives its stub.

For the errors it matters in which order the checks are made. The names of problem and function come
first, then the parameters, then the number of parameters, on which alone the modes differ, and then
the returned value. With a parameter line the number is never wrong and the modes make the same
checks. Without one a program fails for the lack of it, unless the names are wrong already; a stub
goes on and may fail over the returned value. The label of the error tells the two cases apart.
-/

set_option autoImplicit false

namespace StarterCode

open Document

namespace Problem

/-! ## The checks of both modes -/

/-- With a line for a parameter the modes make the same checks. -/
theorem ofLines_program_eq {lines : List LabelledLine}
    (h : valuesOf lines .inputField ≠ []) : ofLines .program lines = ofLines .stub lines := by
  rw [ofLines_eq, ofLines_eq]
  refine bind_congr_of_ok fun names _ => bind_congr_of_ok fun parameters hparameters => ?_
  have hsome : parameters ≠ [] := by
    rintro rfl
    have hlength := length_of_readParametersAfter hparameters
    rw [List.length_nil, Nat.zero_add, eq_comm, List.length_eq_zero_iff] at hlength
    exact h (valuesOf_eq_nil_iff.mpr hlength)
  rw [if_neg fun hnone => hsome hnone.2, if_neg fun hnone => hsome hnone.2]

/-! ## Documents without parameters -/

/-- The document fails to give a stub, and the error is about the name of problem or function. -/
def FailsOverNames (text : String) : Prop :=
  ∃ error, parse text = .error error ∧
    (error.field = Label.problemName.text ∨ error.field = Label.functionName.text)

/-- Without a line for a parameter, a program fails as the stub does or for the lack of one. -/
theorem ofLines_program_of_nil {text : String}
    (h : valuesOf (labelledLines text) .inputField = []) :
    FailsOverNames text ∧ (∃ error, parse text = .error error ∧
        ofLines .program (labelledLines text) = .error error) ∨
      ¬ FailsOverNames text ∧
        ofLines .program (labelledLines text) = Label.inputField.fail .noParameter := by
  have hnone := valuesOf_eq_nil_iff.mp h
  cases hnames : readNames (labelledLines text) with
  | error error =>
    have hmode : ∀ mode, ofLines mode (labelledLines text) = .error error := by
      intro mode
      rw [ofLines_eq, hnames]
      rfl
    have hfield := (about_of_readNames hnames).imp (·.field_eq) (·.field_eq)
    exact .inl ⟨⟨error, hmode .stub, hfield⟩, error, hmode .stub, hmode .program⟩
  | ok names =>
    have hstub : parse text = readReturned (labelledLines text) names [] := by
      rw [parse, ofLines_eq, hnames, hnone]
      rfl
    refine .inr ⟨?_, ?_⟩
    · rintro ⟨error, herror, hfield⟩
      rw [(about_of_readReturned (hstub ▸ herror)).field_eq] at hfield
      exact absurd hfield (by decide)
    · rw [ofLines_eq, hnames, hnone]
      rfl

end Problem

/-! ## The modes together -/

/-- **Stubs and programs of one document.** A document that gives a program gives its stub. With a
line for a parameter, an error of the stub is the error of the program. Without one there is no
program: the error is that of the stub if this is about the names, and else it is about the missing
parameter. Where there is a stub with parameters and no line about layouts, there is a program with
the same problem, in which all layouts are the default ones. -/
theorem parse_modes_agree (text : String) :
    (∀ laidOut, LaidOutProblem.parse text = .ok laidOut →
      Problem.parse text = .ok laidOut.problem) ∧
    (∀ error, valuesOf (labelledLines text) .inputField ≠ [] →
      Problem.parse text = .error error → LaidOutProblem.parse text = .error error) ∧
    (valuesOf (labelledLines text) .inputField = [] →
      ∃ error, LaidOutProblem.parse text = .error error ∧
        (Problem.FailsOverNames text → Problem.parse text = .error error) ∧
        (¬ Problem.FailsOverNames text →
          error.line = none ∧ error.field = Label.inputField.text)) ∧
    ∀ problem, Problem.parse text = .ok problem → problem.parameters ≠ [] →
      valuesOf (labelledLines text) .inputFormat = [] →
      valuesOf (labelledLines text) .outputFormat = [] →
      LaidOutProblem.parse text =
        .ok ⟨problem, problem.parameters.map (⟨·, .counted⟩), .line⟩ := by
  refine ⟨?_, ?_, ?_, ?_⟩
  · intro laidOut h
    exact Problem.parse_eq_ok_iff.mpr (LaidOutProblem.parse_eq_ok_iff.mp h).problem
  · intro error hsome h
    rw [LaidOutProblem.parse, LaidOutProblem.ofLines, Problem.ofLines_program_eq hsome]
    rw [Problem.parse] at h
    rw [h]
    rfl
  · intro hnone
    rcases Problem.ofLines_program_of_nil hnone with
      ⟨hnames, error, hstub, hprogram⟩ | ⟨hnames, hprogram⟩
    · refine ⟨error, ?_, fun _ => hstub, fun h => absurd hnames h⟩
      rw [LaidOutProblem.parse, LaidOutProblem.ofLines, hprogram]
      rfl
    · refine ⟨⟨none, Label.inputField.text, .noParameter⟩, ?_, fun h => absurd h hnames,
        fun _ => ⟨rfl, rfl⟩⟩
      rw [LaidOutProblem.parse, LaidOutProblem.ofLines, hprogram]
      rfl
  · intro problem h hsome hinputs houtput
    refine LaidOutProblem.parse_eq_ok_iff.mpr
      ⟨Problem.parse_eq_ok_iff.mp h, hsome, ⟨[], ?_, .nil, ?_⟩, .inl ⟨houtput, rfl⟩, rfl⟩
    · rw [hinputs]
      exact .nil
    · simp [LaidOutProblem.layoutUnder]

/-- A document without parameters. -/
def bareDocument : String :=
  "\n".intercalate ["Problem Name: \"Bare\"", "Function Name: bare", "Output Field: int"]

theorem parse_modes_agree_disordered :
    LaidOutProblem.parse Problem.disorderedDocument =
        .ok ⟨Problem.disorderedProblem,
          Problem.disorderedProblem.parameters.map (⟨·, .counted⟩), .line⟩ ∧
      Problem.parse bareDocument = .ok ⟨"Bare", "bare", [], .integer, "result"⟩ ∧
      ∃ error, LaidOutProblem.parse bareDocument = .error error ∧
        error.line = none ∧ error.field = "Input Field" := by
  have hformats : valuesOf (labelledLines Problem.disorderedDocument) .inputFormat = [] ∧
      valuesOf (labelledLines Problem.disorderedDocument) .outputFormat = [] := by
    rw [labelledLines, Problem.disorderedDocument, String.toList_intercalate]
    decide +kernel
  have hnone : valuesOf (labelledLines bareDocument) .inputField = [] := by
    rw [labelledLines, bareDocument, String.toList_intercalate]
    decide +kernel
  have hstub : Problem.parse bareDocument = .ok ⟨"Bare", "bare", [], .integer, "result"⟩ := by
    apply eq_ok_of_toOption
    rw [Problem.parse, labelledLines, bareDocument, String.toList_intercalate]
    decide +kernel
  have hnames : ¬ Problem.FailsOverNames bareDocument := by
    rintro ⟨error, herror, -⟩
    rw [hstub] at herror
    cases herror
  obtain ⟨error, hprogram, -, hfield⟩ := (parse_modes_agree bareDocument).2.2.1 hnone
  refine ⟨?_, hstub, error, hprogram, hfield hnames⟩
  exact (parse_modes_agree Problem.disorderedDocument).2.2.2 _ Problem.parse_disorderedDocument
    (by decide) hformats.1 hformats.2

end StarterCode
