import Mathlib.Data.List.Forall2
import StarterCode.Proofs.Lookup
import StarterCode.Proofs.Problem.Declared

/-!
# What a document declares about layouts

The layout lines of a document are hints: each names a parameter and one of its layouts, in any
order, and a parameter without a hint has the default. `LaidOutProblem.DeclaredBy` says this of the
values behind the labels, next to what they declare to be the problem.

The reader keeps a list of the hints it has read, and looks at it for two reasons: to refuse a
second hint for one parameter, and to find the layout of a parameter in the end. With at most one
hint for each parameter, being found in the list is the same as being in it, and there the order of
the hints has no place any more.
-/

set_option autoImplicit false

namespace StarterCode

namespace LaidOutProblem

/-! ## The declaration -/

/-- The value names a parameter and a layout that fits its type. -/
structure Hints (problem : Problem) (value : String) (hint : String × InputLayout) : Prop where
  words_eq : Text.words value.toList = [hint.1.toList, hint.2.text.toList]
  exists_parameter : ∃ parameter ∈ problem.parameters,
    parameter.name = hint.1 ∧ fitsInput parameter.type hint.2 = true

/-- The layout of a parameter under the hints given. -/
def layoutUnder (hints : List (String × InputLayout)) (name : String) : InputLayout :=
  if (name, .line) ∈ hints then .line else .counted

/-- The values behind the labels declare the problem and the layouts. There is at least one
parameter, at most one hint for each of them, and at most one for the output. -/
structure DeclaredBy (laidOut : LaidOutProblem) (values : Label → List String) : Prop where
  problem : laidOut.problem.DeclaredBy values
  parameters_ne_nil : laidOut.problem.parameters ≠ []
  inputs : ∃ hints, List.Forall₂ (Hints laidOut.problem) (values .inputFormat) hints ∧
    (hints.map (·.1)).Nodup ∧
    laidOut.inputs = laidOut.problem.parameters.map fun parameter =>
      ⟨parameter, layoutUnder hints parameter.name⟩
  output : values .outputFormat = [] ∧ laidOut.outputLayout = .line ∨
    values .outputFormat = [laidOut.outputLayout.text]
  fitsOutput : fitsOutput laidOut.problem.returnType laidOut.outputLayout = true

/-! ## Words for layouts -/

theorem inputLayout?_eq_some {word : String} {layout : InputLayout} :
    inputLayout? word = some layout ↔ word = layout.text := by
  constructor
  · intro h
    unfold inputLayout? at h
    split at h
    · cases h
      rfl
    · cases h
      rfl
    · cases h
  · rintro rfl
    cases layout <;> rfl

theorem outputLayout?_eq_some {word : String} {layout : OutputLayout} :
    outputLayout? word = some layout ↔ word = layout.text := by
  constructor
  · intro h
    unfold outputLayout? at h
    split at h
    · cases h
      rfl
    · cases h
      rfl
    · cases h
  · rintro rfl
    cases layout <;> rfl

/-! ## Hints one after the other -/

section Inputs

variable {problem : Problem} (hnodup : (problem.parameters.map (·.name)).Nodup)

include hnodup

theorem parameter?_eq_some_iff {name : String} {parameter : Parameter} :
    problem.parameter? name = some parameter ↔
      parameter ∈ problem.parameters ∧ parameter.name = name := by
  constructor
  · intro h
    rw [Problem.parameter?] at h
    have hname := List.find?_some h
    exact ⟨List.mem_of_find?_eq_some h, beq_iff_eq.mp hname⟩
  · rintro ⟨hmem, rfl⟩
    exact Problem.parameter?_eq_some hnodup hmem

/-- A line is read as a hint if it is one and none was given for the parameter before. -/
theorem readInputLayout_eq_ok {given : List (String × InputLayout)} {line : LabelledLine}
    {hint : String × InputLayout} :
    readInputLayout problem given line = .ok hint ↔
      Hints problem line.value hint ∧ hint.1 ∉ given.map (·.1) := by
  have hgiven : ∀ name, (given.lookup name).isSome = true ↔ name ∈ given.map (·.1) := by
    intro name
    rw [List.lookup_isSome_iff, List.mem_map]
    exact exists_congr fun entry => and_congr_right fun _ => beq_iff_eq.trans eq_comm
  constructor
  · intro h
    unfold readInputLayout at h
    split at h
    · next name word hwords =>
      split at h
      · cases h
      · next parameter hparameter =>
        obtain ⟨hmem, hname⟩ := (parameter?_eq_some_iff hnodup).mp hparameter
        split at h
        · cases h
        · next layout hlayout =>
          split at h
          · cases h
          · next hfits =>
            split at h
            · cases h
            · next hnew =>
              cases h
              rw [inputLayout?_eq_some] at hlayout
              rw [Bool.not_eq_true', Bool.not_eq_false] at hfits
              refine ⟨⟨?_, parameter, hmem, hname, hfits⟩, fun h => hnew ((hgiven name).mpr h)⟩
              rw [← hlayout, eq_comm]
              have hlist := congrArg (List.map String.toList) hwords
              simpa [Function.comp_def] using hlist.symm
    · cases h
  · rintro ⟨⟨hwords, parameter, hmem, hname, hfits⟩, hnew⟩
    obtain ⟨name, layout⟩ := hint
    have hparameter := (parameter?_eq_some_iff hnodup).mpr ⟨hmem, hname⟩
    have hlayout : inputLayout? layout.text = some layout := inputLayout?_eq_some.mpr rfl
    have hnone : (given.lookup name).isSome = false :=
      Bool.eq_false_iff.mpr fun h => hnew ((hgiven name).mp h)
    simp only [readInputLayout, hwords, List.map_cons, List.map_nil, String.ofList_toList,
      hparameter, hlayout, hfits, hnone, Bool.not_true, Bool.false_eq_true, if_false]

/-- What the lines add to the hints given before: one hint each, all for different parameters. -/
theorem readInputLayoutsAfter_eq_ok {given hints : List (String × InputLayout)}
    {lines : List LabelledLine} (hgiven : (given.map (·.1)).Nodup) :
    readInputLayoutsAfter problem given lines = .ok hints ↔
      ∃ added, hints = given ++ added ∧
        List.Forall₂ (fun line hint => Hints problem line.value hint) lines added ∧
        (hints.map (·.1)).Nodup := by
  induction lines generalizing given with
  | nil =>
    constructor
    · intro h
      cases h
      exact ⟨[], (List.append_nil _).symm, .nil, hgiven⟩
    · rintro ⟨added, rfl, hadded, -⟩
      cases hadded
      rw [List.append_nil]
      rfl
  | cons line rest ih =>
    rw [readInputLayoutsAfter, bind_eq_ok]
    constructor
    · rintro ⟨hint, hhint, h⟩
      obtain ⟨hhint, hnew⟩ := (readInputLayout_eq_ok hnodup).mp hhint
      have hboth : ((given ++ [hint]).map (·.1)).Nodup := nodup_map_concat.mpr ⟨hnew, hgiven⟩
      obtain ⟨added, hhints, hadded, hall⟩ := (ih hboth).mp h
      refine ⟨hint :: added, ?_, .cons hhint hadded, hall⟩
      rw [hhints, List.append_assoc, List.singleton_append]
    · rintro ⟨_, hhints, hlines, hall⟩
      obtain ⟨hint, added, hhint, hadded, rfl⟩ := List.forall₂_cons_left_iff.mp hlines
      have hsplit : hints = (given ++ [hint]) ++ added := by
        rw [hhints, List.append_assoc, List.singleton_append]
      have hboth : ((given ++ [hint]).map (·.1)).Nodup := by
        rw [hsplit, List.map_append] at hall
        exact hall.of_append_left
      have hnew : hint.1 ∉ given.map (·.1) := (nodup_map_concat.mp hboth).1
      exact ⟨hint, (readInputLayout_eq_ok hnodup).mpr ⟨hhint, hnew⟩,
        (ih hboth).mpr ⟨added, hsplit, hadded, hall⟩⟩

omit hnodup in
theorem getD_lookup {hints : List (String × InputLayout)} (h : (hints.map (·.1)).Nodup)
    (name : String) : (hints.lookup name).getD .counted = layoutUnder hints name := by
  rw [layoutUnder]
  by_cases hline : (name, .line) ∈ hints
  · rw [if_pos hline, (lookup_eq_some_iff_mem h).mpr hline, Option.getD_some]
  · rw [if_neg hline]
    cases hlookup : hints.lookup name with
    | none => rfl
    | some layout =>
      cases layout with
      | counted => rfl
      | line => exact absurd ((lookup_eq_some_iff_mem h).mp hlookup) hline

theorem readInputs_eq_ok {lines : List LabelledLine} {inputs : List Input} :
    readInputs problem lines = .ok inputs ↔
      ∃ hints, List.Forall₂ (Hints problem) (Document.valuesOf lines .inputFormat) hints ∧
        (hints.map (·.1)).Nodup ∧
        inputs = problem.parameters.map fun parameter =>
          ⟨parameter, layoutUnder hints parameter.name⟩ := by
  have hnone : (([] : List (String × InputLayout)).map (·.1)).Nodup := .nil
  have hinputs : ∀ hints : List (String × InputLayout), (hints.map (·.1)).Nodup →
      problem.parameters.map (fun parameter =>
        (⟨parameter, (hints.lookup parameter.name).getD .counted⟩ : Input)) =
      problem.parameters.map fun parameter => ⟨parameter, layoutUnder hints parameter.name⟩ :=
    fun hints h => List.map_congr_left fun parameter _ => by rw [getD_lookup h]
  rw [readInputs, bind_eq_ok]
  constructor
  · rintro ⟨hints, hread, h⟩
    obtain ⟨added, hadded, hforall, hall⟩ := (readInputLayoutsAfter_eq_ok hnodup hnone).mp hread
    rw [List.nil_append] at hadded
    subst hadded
    cases h
    exact ⟨hints, List.forall₂_map_left_iff.mpr hforall, hall, hinputs hints hall⟩
  · rintro ⟨hints, hforall, hall, rfl⟩
    refine ⟨hints, (readInputLayoutsAfter_eq_ok hnodup hnone).mpr ⟨hints, rfl, ?_, hall⟩, ?_⟩
    · exact List.forall₂_map_left_iff.mp hforall
    · exact congrArg Except.ok (hinputs hints hall)

end Inputs

/-! ## The layout of the output -/

theorem readOutputLayout_eq_ok {problem : Problem} {lines : List LabelledLine}
    {layout : OutputLayout} :
    readOutputLayout problem lines = .ok layout ↔
      (Document.valuesOf lines .outputFormat = [] ∧ layout = .line ∨
        Document.valuesOf lines .outputFormat = [layout.text]) ∧
      fitsOutput problem.returnType layout = true := by
  unfold readOutputLayout Document.valuesOf
  cases lines.filter (·.label == .outputFormat) with
  | nil =>
    rw [Except.ok.injEq]
    constructor
    · rintro rfl
      exact ⟨.inl ⟨rfl, rfl⟩, rfl⟩
    · rintro ⟨⟨-, rfl⟩ | h, -⟩
      · rfl
      · cases h
  | cons line rest =>
    cases rest with
    | nil =>
      simp only [List.map_cons, List.map_nil, List.cons.injEq, and_true, reduceCtorEq, false_and,
        false_or]
      constructor
      · intro h
        split at h
        · cases h
        · next found hfound =>
          split at h
          · next hfits =>
            cases h
            exact ⟨outputLayout?_eq_some.mp hfound, hfits⟩
          · cases h
      · rintro ⟨hvalue, hfits⟩
        simp only [outputLayout?_eq_some.mpr hvalue, hfits, if_true]
    | cons second rest =>
      refine ⟨nofun, ?_⟩
      rintro ⟨⟨h, -⟩ | h, -⟩
      · cases h
      · exact absurd h (by simp)

/-! ## The whole -/

/-- **The reader answers with what is declared,** for layouts as for problems. -/
theorem parse_eq_ok_iff {text : String} {laidOut : LaidOutProblem} :
    parse text = .ok laidOut ↔
      laidOut.DeclaredBy (Document.valuesOf (Document.labelledLines text)) := by
  rw [parse, ofLines]
  constructor
  · intro h
    obtain ⟨problem, hproblem, h⟩ := bind_eq_ok.mp h
    obtain ⟨inputs, hinputs, h⟩ := bind_eq_ok.mp h
    obtain ⟨outputLayout, houtput, h⟩ := bind_eq_ok.mp h
    cases h
    obtain ⟨hdeclared, hsome⟩ :=
      (Problem.ofLines_eq_ok_iff fun _ => Document.trim_value).mp hproblem
    obtain ⟨houtput, hfits⟩ := readOutputLayout_eq_ok.mp houtput
    exact ⟨hdeclared, fun hnil => hsome ⟨rfl, hnil⟩,
      (readInputs_eq_ok hdeclared.names_nodup).mp hinputs, houtput, hfits⟩
  · intro h
    refine bind_eq_ok.mpr ⟨laidOut.problem, ?_, ?_⟩
    · exact (Problem.ofLines_eq_ok_iff fun _ => Document.trim_value).mpr
        ⟨h.problem, fun hnil => h.parameters_ne_nil hnil.2⟩
    refine bind_eq_ok.mpr ⟨laidOut.inputs, ?_, ?_⟩
    · exact (readInputs_eq_ok h.problem.names_nodup).mpr h.inputs
    exact bind_eq_ok.mpr ⟨laidOut.outputLayout,
      readOutputLayout_eq_ok.mpr ⟨h.output, h.fitsOutput⟩, rfl⟩

end LaidOutProblem

end StarterCode
