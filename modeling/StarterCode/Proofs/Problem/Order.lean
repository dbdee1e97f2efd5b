import Mathlib.Data.List.Perm.Basic
import StarterCode.Proofs.Problem.Hints

/-!
# The order of the lines

The lines of a document may stand in any order, those of the parameters excepted. This is no
property of the reader's steps, which stop at different places in two documents and answer with
different errors. It is one of declarations: what the values behind the labels declare stays the
same when the values behind each label change places, and only the values of the parameters, which
make a list, may not. Where there is one value it has no place to change; the hints for layouts, of
which there may be several, are looked at as a set.
-/

set_option autoImplicit false

namespace StarterCode

open Document

section Declarations

variable {values values' : Label → List String}

theorem Problem.DeclaredBy.of_perm {problem : Problem}
    (hperm : ∀ label, (values label).Perm (values' label))
    (hparameters : values .inputField = values' .inputField) (h : problem.DeclaredBy values) :
    problem.DeclaredBy values' where
  name_eq := List.perm_singleton.mp (h.name_eq ▸ (hperm _).symm)
  name_not_blank := h.name_not_blank
  functionName_eq := List.perm_singleton.mp (h.functionName_eq ▸ (hperm _).symm)
  isIdentifier_functionName := h.isIdentifier_functionName
  parameters := hparameters ▸ h.parameters
  orders_eq := h.orders_eq
  names_nodup := h.names_nodup
  output := by
    obtain ⟨value, hvalue, houtput⟩ := h.output
    exact ⟨value, List.perm_singleton.mp (hvalue ▸ (hperm _).symm), houtput⟩

/-- The layout of a parameter depends on which hints there are. -/
theorem LaidOutProblem.layoutUnder_of_perm {hints hints' : List (String × InputLayout)}
    (h : hints.Perm hints') (name : String) : layoutUnder hints name = layoutUnder hints' name := by
  rw [layoutUnder, layoutUnder]
  exact if_congr h.mem_iff rfl rfl

theorem LaidOutProblem.DeclaredBy.of_perm {laidOut : LaidOutProblem}
    (hperm : ∀ label, (values label).Perm (values' label))
    (hparameters : values .inputField = values' .inputField) (h : laidOut.DeclaredBy values) :
    laidOut.DeclaredBy values' where
  problem := h.problem.of_perm hperm hparameters
  parameters_ne_nil := h.parameters_ne_nil
  inputs := by
    obtain ⟨hints, hhints, hnodup, hinputs⟩ := h.inputs
    -- the hints change places with their lines
    obtain ⟨hints', hhints', hperm'⟩ := List.perm_comp_forall₂ (hperm .inputFormat).symm hhints
    refine ⟨hints', hhints', (hperm'.map (·.1)).nodup_iff.mpr hnodup, ?_⟩
    simp only [hinputs, layoutUnder_of_perm hperm']
  output := by
    rcases h.output with ⟨hnone, hline⟩ | hvalue
    · exact .inl ⟨(hnone ▸ hperm .outputFormat).nil_eq.symm, hline⟩
    · exact .inr (List.perm_singleton.mp (hvalue ▸ (hperm _).symm))
  fitsOutput := h.fitsOutput

end Declarations

/-- Documents with the same entries have the same values behind each label, in some order. -/
theorem valuesOf_perm {lines lines' : List LabelledLine}
    (h : (lines.map (·.entry)).Perm (lines'.map (·.entry))) (label : Label) :
    (valuesOf lines label).Perm (valuesOf lines' label) := by
  rw [valuesOf_eq, valuesOf_eq]
  exact (h.filter _).map _

/-- **The order of the lines does not matter.** Of two documents with the same entries, in any order
but with the parameters in one order, both or neither give a problem, and the same one; and so it is
with layouts. -/
theorem parse_perm {first second : String}
    (hentries : ((labelledLines first).map (·.entry)).Perm ((labelledLines second).map (·.entry)))
    (hparameters : valuesOf (labelledLines first) .inputField =
      valuesOf (labelledLines second) .inputField) :
    (∀ problem, Problem.parse first = .ok problem ↔ Problem.parse second = .ok problem) ∧
      ∀ laidOut, LaidOutProblem.parse first = .ok laidOut ↔
        LaidOutProblem.parse second = .ok laidOut := by
  have hforth := valuesOf_perm hentries
  have hback := valuesOf_perm hentries.symm
  constructor
  · intro problem
    rw [Problem.parse_eq_ok_iff, Problem.parse_eq_ok_iff]
    exact ⟨fun h => h.of_perm hforth hparameters, fun h => h.of_perm hback hparameters.symm⟩
  · intro laidOut
    rw [LaidOutProblem.parse_eq_ok_iff, LaidOutProblem.parse_eq_ok_iff]
    exact ⟨fun h => h.of_perm hforth hparameters, fun h => h.of_perm hback hparameters.symm⟩

/-- A document with two hints. -/
def hintedDocument : String :=
  "\n".intercalate ["Problem Name: \"S\"", "Function Name: s", "Input Field: a int[]",
    "Input Field: b str[]", "Input Format: b line", "Input Format: a counted",
    "Output Field: bool"]

/-- The same with its lines in another order, decorated and with prose between them. -/
def shuffledDocument : String :=
  "\n".intercalate ["- Input Format: a counted", "Output Field: bool\r", "Input Field: a int[]",
    "## Function Name: s", "Input Format:  b line", "Prose.", "Input Field: b str[]",
    "**Problem Name:** \"S\""]

/-- The problem of both documents. -/
def hintedProblem : LaidOutProblem where
  problem := ⟨"S", "s", [⟨"a", .array .integer, 0⟩, ⟨"b", .array .string, 1⟩], .boolean, "result"⟩
  inputs := [⟨⟨"a", .array .integer, 0⟩, .counted⟩, ⟨⟨"b", .array .string, 1⟩, .line⟩]
  outputLayout := .line

theorem parse_perm_shuffled :
    ((labelledLines hintedDocument).map (·.entry)).Perm
        ((labelledLines shuffledDocument).map (·.entry)) ∧
      valuesOf (labelledLines hintedDocument) .inputField =
        valuesOf (labelledLines shuffledDocument) .inputField ∧
      LaidOutProblem.parse hintedDocument = .ok hintedProblem ∧
      LaidOutProblem.parse shuffledDocument = .ok hintedProblem := by
  have hentries : ((labelledLines hintedDocument).map (·.entry)).Perm
      ((labelledLines shuffledDocument).map (·.entry)) := by
    rw [hintedDocument, shuffledDocument, labelledLines, labelledLines,
      String.toList_intercalate, String.toList_intercalate]
    decide +kernel
  have hparameters : valuesOf (labelledLines hintedDocument) .inputField =
      valuesOf (labelledLines shuffledDocument) .inputField := by
    rw [hintedDocument, shuffledDocument, labelledLines, labelledLines,
      String.toList_intercalate, String.toList_intercalate]
    decide +kernel
  have hparse : LaidOutProblem.parse hintedDocument = .ok hintedProblem := by
    apply eq_ok_of_toOption
    rw [LaidOutProblem.parse, labelledLines, hintedDocument, String.toList_intercalate]
    decide +kernel
  have hsecond := ((parse_perm hentries hparameters).2 hintedProblem).mp hparse
  exact ⟨hentries, hparameters, hparse, hsecond⟩

end StarterCode
