import StarterCode.Proofs.Problem.Hints

/-!
# Layouts that are read fit

A program is made from a problem whose layouts fit its types: an input that fills a line is an array
of scalars, and a returned value that goes over several lines is an array. `LaidOutProblem.Fits`
says so, and every document that is read gives such a problem.

A layout line names its parameter, and the layout is checked against the first parameter of that
name. The layout is then looked up by the name of each parameter. That the two are the same
parameter is due to the names, which are all different.
-/

set_option autoImplicit false

namespace StarterCode

namespace LaidOutProblem

/-- The inputs are the parameters, and all layouts fit their types. -/
structure Fits (laidOut : LaidOutProblem) : Prop where
  parameters_eq : laidOut.inputs.map (·.parameter) = laidOut.problem.parameters
  fitsInput : ∀ input ∈ laidOut.inputs, fitsInput input.parameter.type input.layout = true
  fitsOutput : fitsOutput laidOut.problem.returnType laidOut.outputLayout = true

/-- Every layout known so far fits the parameter that its name finds. -/
def Checked (problem : Problem) (given : List (String × InputLayout)) : Prop :=
  ∀ entry ∈ given, ∃ parameter, problem.parameter? entry.1 = some parameter ∧
    LaidOutProblem.fitsInput parameter.type entry.2 = true

/-- A hint fits the parameter that its name finds. -/
theorem checked_of_hints {problem : Problem} {values : List String}
    {hints : List (String × InputLayout)} (hnodup : (problem.parameters.map (·.name)).Nodup)
    (h : List.Forall₂ (Hints problem) values hints) : Checked problem hints := by
  intro hint hhint
  obtain ⟨i, hi, rfl⟩ := List.getElem_of_mem hhint
  obtain ⟨parameter, hparameter, hname, hfits⟩ :=
    (h.get (h.length_eq ▸ hi) hi).exists_parameter
  exact ⟨parameter, (parameter?_eq_some_iff hnodup).mpr ⟨hparameter, hname⟩, hfits⟩

/-- The inputs that are declared are the parameters, and their layouts fit. -/
theorem DeclaredBy.fits {laidOut : LaidOutProblem} {values : Label → List String}
    (h : laidOut.DeclaredBy values) : laidOut.Fits := by
  have hnodup := h.problem.names_nodup
  obtain ⟨hints, hhints, -, hinputs⟩ := h.inputs
  refine ⟨?_, ?_, h.fitsOutput⟩
  · rw [hinputs, List.map_map]
    exact List.map_id _
  · intro input hinput
    rw [hinputs] at hinput
    obtain ⟨parameter, hparameter, rfl⟩ := List.mem_map.mp hinput
    by_cases hline : (parameter.name, .line) ∈ hints
    · -- the layout was checked against the parameter that the name finds, which is this one
      obtain ⟨found, hfound, hfits⟩ := checked_of_hints hnodup hhints _ hline
      rw [Problem.parameter?_eq_some hnodup hparameter, Option.some.injEq] at hfound
      rw [layoutUnder, if_pos hline, hfound]
      exact hfits
    · rw [layoutUnder, if_neg hline]
      rfl

/-- **What is read fits.** A document that gives a problem with layouts gives the problem alone as
well, and the layouts fit it. -/
theorem fits_of_parse {text : String} {laidOut : LaidOutProblem} (h : parse text = .ok laidOut) :
    Problem.parse text = .ok laidOut.problem ∧ laidOut.Fits := by
  have hdeclared := parse_eq_ok_iff.mp h
  exact ⟨Problem.parse_eq_ok_iff.mpr hdeclared.problem, hdeclared.fits⟩

end LaidOutProblem

end StarterCode
