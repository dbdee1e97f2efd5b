import Mathlib.Data.List.Nodup
import StarterCode.Problem.Reader
import StarterCode.Proofs.Result

/-!
# The parts of a problem that is read

A problem is read part by part, each part from lines of its own. `Problem.ofLines_eq_ok` says once
what every part has come from; whatever is to be known of a problem that is read follows from there
and from what is known of the reader of one part.

The names of the parameters are all different, so a parameter is found by its name.
-/

set_option autoImplicit false

namespace StarterCode

/-- One more is different from the others if its value is none of theirs. -/
theorem nodup_map_concat {α β : Type} {f : α → β} {list : List α} {a : α} :
    ((list ++ [a]).map f).Nodup ↔ f a ∉ list.map f ∧ (list.map f).Nodup := by
  rw [List.map_append, List.map_singleton, ← List.concat_eq_append, List.nodup_concat]

namespace Problem

/-- What a problem is read from. A program needs a parameter, and that is all that the modes differ
in. -/
theorem ofLines_eq_ok {mode : Mode} {lines : List LabelledLine} {problem : Problem} :
    ofLines mode lines = .ok problem ↔ ∃ nameLine functionLine outputLine declaredName,
      onlyLine .problemName lines = .ok nameLine ∧ readName nameLine = .ok problem.name ∧
      onlyLine .functionName lines = .ok functionLine ∧
      readFunctionName functionLine = .ok problem.functionName ∧
      readParametersAfter [] (lines.filter (·.label == .inputField)) = .ok problem.parameters ∧
      ¬ (mode = .program ∧ problem.parameters = []) ∧
      onlyLine .outputField lines = .ok outputLine ∧
      readOutput outputLine = .ok (declaredName, problem.returnType) ∧
      outputNameFor outputLine (problem.parameters.map (·.name)) declaredName =
        .ok problem.outputName := by
  constructor
  · intro h
    obtain ⟨nameLine, hnameLine, h⟩ := bind_eq_ok.mp h
    obtain ⟨name, hname, h⟩ := bind_eq_ok.mp h
    obtain ⟨functionLine, hfunctionLine, h⟩ := bind_eq_ok.mp h
    obtain ⟨functionName, hfunctionName, h⟩ := bind_eq_ok.mp h
    obtain ⟨parameters, hparameters, h⟩ := bind_eq_ok.mp h
    by_cases hnone : mode = .program ∧ parameters = []
    · rw [if_pos hnone] at h
      cases h
    · rw [if_neg hnone] at h
      obtain ⟨outputLine, houtputLine, h⟩ := bind_eq_ok.mp h
      obtain ⟨⟨declaredName, returnType⟩, houtput, h⟩ := bind_eq_ok.mp h
      obtain ⟨outputName, houtputName, h⟩ := bind_eq_ok.mp h
      cases h
      exact ⟨nameLine, functionLine, outputLine, declaredName, hnameLine, hname, hfunctionLine,
        hfunctionName, hparameters, hnone, houtputLine, houtput, houtputName⟩
  · rintro ⟨nameLine, functionLine, outputLine, declaredName, hnameLine, hname, hfunctionLine,
      hfunctionName, hparameters, hnone, houtputLine, houtput, houtputName⟩
    refine bind_eq_ok.mpr ⟨nameLine, hnameLine, bind_eq_ok.mpr ⟨_, hname, ?_⟩⟩
    refine bind_eq_ok.mpr ⟨functionLine, hfunctionLine, bind_eq_ok.mpr ⟨_, hfunctionName, ?_⟩⟩
    refine bind_eq_ok.mpr ⟨_, hparameters, ?_⟩
    rw [if_neg hnone]
    refine bind_eq_ok.mpr ⟨outputLine, houtputLine, bind_eq_ok.mpr ⟨_, houtput, ?_⟩⟩
    exact bind_eq_ok.mpr ⟨_, houtputName, rfl⟩

/-- With different names, a parameter is found by its name. -/
theorem parameter?_eq_some {problem : Problem} (h : (problem.parameters.map (·.name)).Nodup)
    {parameter : Parameter} (hparameter : parameter ∈ problem.parameters) :
    problem.parameter? parameter.name = some parameter := by
  rw [Problem.parameter?]
  cases hfind : problem.parameters.find? (·.name == parameter.name) with
  | none => exact absurd (List.find?_eq_none.mp hfind parameter hparameter) (by simp)
  | some found =>
    have hname := List.find?_some hfind
    have hmem : found ∈ problem.parameters := List.mem_of_find?_eq_some hfind
    rw [List.inj_on_of_nodup_map h hmem hparameter (beq_iff_eq.mp hname)]

/-! ## The checks in their order -/

/-- The names of problem and function, which are read first. -/
def readNames (lines : List LabelledLine) : Except ParseError (String × String) := do
  let name ← readName (← onlyLine .problemName lines)
  let functionName ← readFunctionName (← onlyLine .functionName lines)
  return (name, functionName)

/-- The returned value, which is read last, and the problem that it completes. -/
def readReturned (lines : List LabelledLine) (names : String × String)
    (parameters : List Parameter) : Except ParseError Problem := do
  let output ← onlyLine .outputField lines
  let (declaredName, returnType) ← readOutput output
  let outputName ← outputNameFor output (parameters.map (·.name)) declaredName
  return ⟨names.1, names.2, parameters, returnType, outputName⟩

/-- The modes differ in one check. -/
theorem ofLines_eq (mode : Mode) (lines : List LabelledLine) :
    ofLines mode lines = (do
      let names ← readNames lines
      let parameters ← readParametersAfter [] (lines.filter (·.label == .inputField))
      if mode = .program ∧ parameters = [] then Label.inputField.fail .noParameter
      else readReturned lines names parameters) := by
  simp only [ofLines, readNames, readReturned, bind_assoc, pure_bind]

end Problem

end StarterCode
