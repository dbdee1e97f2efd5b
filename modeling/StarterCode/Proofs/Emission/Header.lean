import Mathlib.Data.List.Forall2
import Mathlib.Data.List.Nodup
import StarterCode.Dialect
import StarterCode.Proofs.Emission.Spelling
import StarterCode.Proofs.Result

/-!
# What a header holds

A header is made step by step, with a check before each name is taken. `Dialect.Heads` says what has
come out when all checks have passed, so that nobody has to follow the steps again: the names as the
dialect writes them, the types as it spells them, and all names different and free.

The steps go through the parameters with the variables made before them at hand. What one step adds
is `parameterVariable_eq_ok`, and the whole is by induction on the parameters.
-/

set_option autoImplicit false

namespace StarterCode

/-- All names of a header. -/
def Header.names (header : Header) : List String :=
  header.functionName :: (header.parameters.map (·.name) ++ [header.outputName])

theorem checkIdentifier_eq_ok {language : Language} {reserved : List String}
    {name context : String} {answer : Unit} :
    checkIdentifier language reserved name context = .ok answer ↔ name ∉ reserved := by
  rw [checkIdentifier]
  split
  · next h =>
    rw [List.contains_iff_mem] at h
    simp [h]
  · next h =>
    rw [List.contains_iff_mem] at h
    simp [h]

namespace Dialect

variable {dialect : Dialect}

/-- The variable is the parameter as the dialect writes it. -/
structure Writes (dialect : Dialect) (parameter : Parameter) (written : Variable) : Prop where
  name_eq : written.name = dialect.rename parameter.name
  spell?_eq : dialect.spelling.spell? parameter.type = some written.type

/-- The header is that of the problem: everything in it is written as the dialect writes it, and its
names are free and different. -/
structure Heads (dialect : Dialect) (problem : Problem) (header : Header) : Prop where
  functionName_eq : header.functionName = dialect.rename problem.functionName
  parameters : List.Forall₂ dialect.Writes problem.parameters header.parameters
  spell?_eq : dialect.spelling.spell? problem.returnType = some header.returnType
  outputName_eq : header.outputName = dialect.rename problem.outputName
  not_reserved : ∀ name ∈ header.names, name ∉ dialect.reserved
  nodup : header.names.Nodup

/-- What has been checked when a variable is made. -/
theorem parameterVariable_eq_ok {functionName : String} {earlier : List Variable}
    {parameter : Parameter} {written : Variable}
    (h : dialect.parameterVariable functionName earlier parameter = .ok written) :
    dialect.Writes parameter written ∧ written.name ∉ dialect.reserved ∧
      written.name ≠ functionName ∧ written.name ∉ earlier.map (·.name) := by
  obtain ⟨_, hreserved, h⟩ := bind_eq_ok.mp h
  rw [checkIdentifier_eq_ok] at hreserved
  by_cases hfunction : dialect.rename parameter.name = functionName
  · simp [hfunction, fail] at h
  · by_cases hearlier : earlier.any (·.name == dialect.rename parameter.name) = true
    · simp [hfunction, hearlier, fail] at h
    · rw [if_neg hfunction, if_neg hearlier] at h
      obtain ⟨type, htype, h⟩ := bind_eq_ok.mp h
      cases h
      rw [Spelling.spellFor_eq_ok] at htype
      refine ⟨⟨rfl, htype⟩, hreserved, hfunction, ?_⟩
      intro hmem
      obtain ⟨other, hother, hname⟩ := List.mem_map.mp hmem
      exact hearlier (List.any_eq_true.mpr ⟨other, hother, beq_iff_eq.mpr hname⟩)

/-- The variables made for all parameters, behind those made before. -/
theorem parameterVariablesAfter_eq_ok {functionName : String} {parameters : List Parameter}
    {earlier written : List Variable}
    (h : dialect.parameterVariablesAfter functionName earlier parameters = .ok written) :
    ∃ made, written = earlier ++ made ∧ List.Forall₂ dialect.Writes parameters made ∧
      (∀ one ∈ made, one.name ∉ dialect.reserved ∧ one.name ≠ functionName) ∧
      ((earlier.map (·.name)).Nodup → (written.map (·.name)).Nodup) := by
  induction parameters generalizing earlier with
  | nil =>
    cases h
    exact ⟨[], (List.append_nil _).symm, .nil, by simp, id⟩
  | cons parameter rest ih =>
    obtain ⟨written, hwritten, h⟩ := bind_eq_ok.mp h
    obtain ⟨hwrites, hreserved, hfunction, hearlier⟩ := parameterVariable_eq_ok hwritten
    obtain ⟨made, rfl, hrest, hmade, hnodup⟩ := ih h
    refine ⟨written :: made, by rw [List.append_assoc, List.singleton_append], .cons hwrites hrest,
      ?_, ?_⟩
    · intro other hother
      rcases List.mem_cons.mp hother with rfl | hother
      · exact ⟨hreserved, hfunction⟩
      · exact hmade other hother
    · intro hdistinct
      refine hnodup ?_
      rw [List.map_append, List.map_singleton, ← List.concat_eq_append]
      exact hdistinct.concat hearlier

/-- **What a header holds.** -/
theorem heads_of_header {problem : Problem} {header : Header}
    (h : dialect.header problem = .ok header) : dialect.Heads problem header := by
  obtain ⟨_, hfunction, h⟩ := bind_eq_ok.mp h
  obtain ⟨parameters, hparameters, h⟩ := bind_eq_ok.mp h
  obtain ⟨_, houtput, h⟩ := bind_eq_ok.mp h
  rw [checkIdentifier_eq_ok] at hfunction houtput
  obtain ⟨made, rfl, hwrites, hmade, hnodup⟩ := parameterVariablesAfter_eq_ok hparameters
  split at h
  · simp [fail] at h
  · next hclash =>
    obtain ⟨returnType, hreturn, h⟩ := bind_eq_ok.mp h
    cases h
    rw [Spelling.spellFor_eq_ok] at hreturn
    -- the name of the returned value is neither that of the function nor that of a parameter
    simp only [Bool.or_eq_true, List.any_eq_true, beq_iff_eq, not_or, not_exists, not_and] at hclash
    refine ⟨rfl, hwrites, hreturn, rfl, ?_, ?_⟩
    · intro name hname
      simp only [Header.names, List.mem_cons, List.mem_append, List.mem_map, List.not_mem_nil,
        or_false] at hname
      rcases hname with rfl | ⟨written, hwritten, rfl⟩ | rfl
      · exact hfunction
      · exact (hmade written hwritten).1
      · exact houtput
    · simp only [Header.names, List.nodup_cons, List.nodup_append, List.mem_append, List.mem_map,
        List.mem_singleton, not_or, not_exists, not_and]
      refine ⟨⟨fun written hwritten => (hmade written hwritten).2, fun heq => hclash.2 heq.symm⟩,
        hnodup .nil, ⟨List.not_mem_nil, .nil⟩, ?_⟩
      rintro _ ⟨written, hwritten, rfl⟩ _ rfl heq
      exact hclash.1 written hwritten heq

/-! ## Making a header

The checks are met in order: what `Heads` says of all names together is taken apart into what each
step asks of the names before it. -/

/-- A variable is made when all that is checked holds of it. -/
theorem parameterVariable_of_writes {functionName : String} {earlier : List Variable}
    {parameter : Parameter} {written : Variable} (hwrites : dialect.Writes parameter written)
    (hreserved : written.name ∉ dialect.reserved) (hfunction : written.name ≠ functionName)
    (hearlier : written.name ∉ earlier.map (·.name)) :
    dialect.parameterVariable functionName earlier parameter = .ok written := by
  obtain ⟨name, type⟩ := written
  obtain ⟨rfl, htype⟩ := hwrites
  have hany : ¬ earlier.any (·.name == dialect.rename parameter.name) = true := by
    intro h
    obtain ⟨other, hother, hname⟩ := List.any_eq_true.mp h
    exact hearlier (List.mem_map.mpr ⟨other, hother, beq_iff_eq.mp hname⟩)
  refine bind_eq_ok.mpr ⟨(), checkIdentifier_eq_ok.mpr hreserved, ?_⟩
  rw [if_neg hfunction, if_neg hany]
  exact bind_eq_ok.mpr ⟨type, Spelling.spellFor_eq_ok.mpr htype, rfl⟩

/-- The variables of all parameters are made behind those made before, as long as all names are
different. -/
theorem parameterVariablesAfter_of_writes {functionName : String} {parameters : List Parameter}
    {made : List Variable} (hwrites : List.Forall₂ dialect.Writes parameters made)
    (hfree : ∀ one ∈ made, one.name ∉ dialect.reserved ∧ one.name ≠ functionName) :
    ∀ {earlier : List Variable}, ((earlier ++ made).map (·.name)).Nodup →
      dialect.parameterVariablesAfter functionName earlier parameters = .ok (earlier ++ made) := by
  induction hwrites with
  | nil =>
    intro earlier _
    rw [List.append_nil]
    rfl
  | @cons parameter written parameters made hfirst _ ih =>
    intro earlier hnodup
    obtain ⟨hreserved, hfunction⟩ := hfree written List.mem_cons_self
    -- the rest is made behind the earlier variables and this one
    have hsplit : earlier ++ written :: made = (earlier ++ [written]) ++ made := by
      rw [List.append_assoc, List.singleton_append]
    rw [hsplit] at hnodup ⊢
    have hearlier : written.name ∉ earlier.map (·.name) := by
      intro hmem
      rw [List.map_append, List.map_append] at hnodup
      exact (List.nodup_append.mp hnodup.of_append_left).2.2 _ hmem _ (by simp) rfl
    refine bind_eq_ok.mpr ⟨written, ?_, ?_⟩
    · exact parameterVariable_of_writes hfirst hreserved hfunction hearlier
    · exact ih (fun one hone => hfree one (List.mem_cons_of_mem _ hone)) hnodup

/-- All parameters are made into variables when their names and that of the function are different
and free. -/
theorem parameterVariables_of_writes {functionName : String} {parameters : List Parameter}
    {made : List Variable} (hwrites : List.Forall₂ dialect.Writes parameters made)
    (hnodup : (functionName :: made.map (·.name)).Nodup)
    (hfree : ∀ name ∈ made.map (·.name), name ∉ dialect.reserved) :
    dialect.parameterVariablesAfter functionName [] parameters = .ok made := by
  obtain ⟨hfunction, hparameters⟩ := List.nodup_cons.mp hnodup
  refine parameterVariablesAfter_of_writes hwrites ?_ hparameters
  intro one hone
  have hname : one.name ∈ made.map (·.name) := List.mem_map_of_mem hone
  exact ⟨hfree one.name hname, fun heq => hfunction (heq ▸ hname)⟩

/-- The last check of names: whether that of the returned value is one of those before it. -/
theorem clashes_iff {functionName name : String} {made : List Variable} :
    (made.any (·.name == name) || name == functionName) = true ↔
      name ∈ functionName :: made.map (·.name) := by
  rw [Bool.or_eq_true, List.any_eq_true, beq_iff_eq, List.mem_cons, List.mem_map, or_comm]
  simp only [beq_iff_eq]

/-- **A header is made for every problem that can have one.** -/
theorem header_eq_ok_iff {problem : Problem} {header : Header} :
    dialect.header problem = .ok header ↔ dialect.Heads problem header := by
  constructor
  · exact heads_of_header
  · intro h
    obtain ⟨functionName, parameters, returnType, outputName⟩ := header
    obtain ⟨rfl, hwrites, hreturn, rfl, hreserved, hnodup⟩ := h
    simp only [Header.names] at hwrites hreturn hreserved hnodup
    -- the name of the returned value comes last, and it is none of those before
    rw [← List.cons_append, ← List.concat_eq_append, List.nodup_concat] at hnodup
    obtain ⟨houtput, hgiven⟩ := hnodup
    have hmade := parameterVariables_of_writes hwrites hgiven fun name hname =>
      hreserved name (by simp [hname])
    -- function, parameters, returned value and its type, in the order of the checks
    refine bind_eq_ok.mpr ⟨(), checkIdentifier_eq_ok.mpr (hreserved _ (by simp)), ?_⟩
    refine bind_eq_ok.mpr ⟨parameters, hmade, ?_⟩
    refine bind_eq_ok.mpr ⟨(), checkIdentifier_eq_ok.mpr (hreserved _ (by simp)), ?_⟩
    rw [if_neg (mt clashes_iff.mp houtput)]
    exact bind_eq_ok.mpr ⟨returnType, Spelling.spellFor_eq_ok.mpr hreturn, rfl⟩

/-- The type of each parameter of a problem that has a header is spelled. -/
theorem Heads.isSome_spell? {problem : Problem} {header : Header}
    (h : dialect.Heads problem header) : ∀ parameter ∈ problem.parameters,
    (dialect.spelling.spell? parameter.type).isSome = true := by
  have hspelled : List.Forall₂ (fun parameter written =>
      (dialect.spelling.spell? parameter.type).isSome = true ∧ dialect.Writes parameter written)
      problem.parameters header.parameters :=
    h.parameters.imp fun _ _ hwrites => ⟨by rw [hwrites.spell?_eq, Option.isSome_some], hwrites⟩
  exact ((List.forall₂_and_left _ _).mp hspelled).1

end Dialect

end StarterCode
