import Mathlib.Data.List.Forall2
import StarterCode.Spelling

/-!
# Which types are spelled

A table spells a type exactly when it has a spelling for every custom name that occurs in the type,
at whatever depth. All other parts of a table are words that are always there, so two tables with
the same custom names spell the same types, whatever the words are.
-/

set_option autoImplicit false

namespace StarterCode.Spelling

/-- The table has a spelling for every custom name in these types. -/
def Knows (spelling : Spelling) (types : List ValueType) : Prop :=
  ∀ name, .custom name ∈ types → (spelling.custom.lookup name).isSome = true

/-- What a table knows stands in it. -/
theorem knows_iff {spelling : Spelling} {types : List ValueType} :
    spelling.Knows types ↔
      ∀ name, .custom name ∈ types → ∃ spelled, (name, spelled) ∈ spelling.custom := by
  have hlookup : ∀ name, (spelling.custom.lookup name).isSome = true ↔
      ∃ spelled, (name, spelled) ∈ spelling.custom := by
    intro name
    simp only [List.lookup_isSome_iff, Prod.exists, beq_iff_eq]
    constructor
    · rintro ⟨other, spelled, hmem, rfl⟩
      exact ⟨spelled, hmem⟩
    · rintro ⟨spelled, hmem⟩
      exact ⟨name, spelled, hmem, rfl⟩
  simp only [Knows, hlookup]

theorem Knows.append {spelling : Spelling} {types types' : List ValueType} :
    spelling.Knows (types ++ types') ↔ spelling.Knows types ∧ spelling.Knows types' := by
  simp only [Knows, List.mem_append, or_imp, forall_and]

/-- A type that is no custom name asks for nothing itself. -/
theorem Knows.cons {spelling : Spelling} {type : ValueType} {types : List ValueType}
    (hother : ∀ name, type ≠ .custom name) :
    spelling.Knows (type :: types) ↔ spelling.Knows types := by
  constructor
  · intro h name hname
    exact h name (List.mem_cons_of_mem _ hname)
  · intro h name hname
    rcases List.mem_cons.mp hname with heq | hname
    · exact absurd heq.symm (hother name)
    · exact h name hname

mutual

/-- A type is spelled exactly when the table knows every custom name in it. -/
theorem isSome_spell? (spelling : Spelling) : ∀ type : ValueType,
    (spelling.spell? type).isSome = true ↔ spelling.Knows type.walk
  | .integer | .float | .boolean | .string => by simp [spell?, ValueType.walk, Knows]
  | .array element => by
    rw [spell?, Option.isSome_map, ValueType.walk, Knows.cons (fun _ => ValueType.noConfusion)]
    exact isSome_spell? spelling element
  | .tuple components => by
    rw [spell?, Option.isSome_map, ValueType.walk, Knows.cons (fun _ => ValueType.noConfusion)]
    exact isSome_spellAll? spelling components
  | .custom name => by simp [spell?, ValueType.walk, Knows]

/-- Several types are spelled exactly when each of them is. -/
theorem isSome_spellAll? (spelling : Spelling) : ∀ types : List ValueType,
    (spelling.spellAll? types).isSome = true ↔ spelling.Knows (ValueType.walkAll types)
  | [] => by simp [spellAll?, ValueType.walkAll, Knows]
  | type :: types => by
    have hfirst := isSome_spell? spelling type
    have hothers := isSome_spellAll? spelling types
    rw [ValueType.walkAll, Knows.append, ← hfirst, ← hothers, spellAll?]
    cases spelling.spell? type <;> cases spelling.spellAll? types <;> simp

end

/-- Tables with the same custom names spell the same types. -/
theorem isSome_spell?_congr {spelling spelling' : Spelling}
    (h : spelling.custom = spelling'.custom) (type : ValueType) :
    (spelling.spell? type).isSome = (spelling'.spell? type).isSome := by
  rw [Bool.eq_iff_iff, isSome_spell?, isSome_spell?, Knows, Knows, h]

/-- A type is spelled for some use when it is spelled at all. -/
theorem spellFor_eq_ok {spelling : Spelling} {type : ValueType} {context spelled : String} :
    spelling.spellFor type context = .ok spelled ↔ spelling.spell? type = some spelled := by
  rw [spellFor]
  split
  · next heq => simp [heq]
  · next heq => simp [heq]

/-- Types that are spelled one by one are spelled together. -/
theorem spellAll?_of_forall₂ {spelling : Spelling} {types : List ValueType} {parts : List String}
    (h : List.Forall₂ (fun type part => spelling.spell? type = some part) types parts) :
    spelling.spellAll? types = some parts := by
  induction h with
  | nil => rfl
  | cons hfirst _ ih =>
    rw [spellAll?, hfirst, ih]
    rfl

end StarterCode.Spelling
