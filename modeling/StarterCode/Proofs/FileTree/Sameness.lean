import Mathlib.Data.Set.Basic
import StarterCode.Proofs.FileTree.Growth

/-!
# Trees that are the same at some places

What is put at a place a second time is there already, and then the tree does not change at all, not
even in the order of its entries (`put_put_self`). It stays so whatever is put at other places in
between (`put_put_of_ne`).

`SameOn` collects what an operation that looks at some places only can see of a tree: what is at
these places, which paths lead to folders, and what may be put there once more without a change.
-/

set_option autoImplicit false

namespace StarterCode.FileTree

variable {tree between after : FileTree} {location place : Location} {entry other : Entry}

/-! ## Putting something twice -/

/-- What is at a location has no other entry, behind or in front. -/
theorem eq_of_lookup_eq_none {entries : List (Location × Entry)} {old : Location × Entry}
    (h : entries.lookup location = none) (hmem : old ∈ entries) : old.1 ≠ location := by
  rw [List.lookup_eq_none_iff] at h
  exact (bne_iff_ne.mp (h old hmem)).symm

/-- Nothing changes where every entry at the location is the one that is put, and there is one. -/
theorem put_eq_self_iff : tree.put location entry = tree ↔
    (tree.entries.lookup location).isSome = true ∧
      ∀ old ∈ tree.entries, old.1 = location → old = (location, entry) := by
  unfold put
  by_cases hsome : (tree.entries.lookup location).isSome = true
  · rw [if_pos hsome]
    refine ⟨fun h => ⟨hsome, ?_⟩, ?_⟩
    · intro old hmem hold
      have hentries : (tree.entries.map fun old =>
          if old.1 = location then (location, entry) else old) = tree.entries.map id := by
        rw [List.map_id]
        exact congrArg entries h
      have hsame := List.map_inj_left.mp hentries old hmem
      rw [if_pos hold] at hsame
      exact hsame.symm
    · rintro ⟨-, hall⟩
      have hentries : (tree.entries.map fun old =>
          if old.1 = location then (location, entry) else old) = tree.entries := by
        refine (List.map_inj_left.mpr ?_).trans (List.map_id _)
        intro old hmem
        by_cases hold : old.1 = location
        · rw [if_pos hold, id, hall old hmem hold]
        · rw [if_neg hold, id]
      rw [hentries]
  · rw [if_neg hsome]
    refine ⟨fun h => ?_, fun h => absurd h.1 hsome⟩
    have hlength := congrArg (·.entries.length) h
    simp at hlength

theorem put_put_self (tree : FileTree) (location : Location) (entry : Entry) :
    (tree.put location entry).put location entry = tree.put location entry := by
  rw [put_eq_self_iff]
  unfold put
  by_cases hsome : (tree.entries.lookup location).isSome = true
  · rw [if_pos hsome]
    refine ⟨by rw [lookup_map_self hsome]; rfl, ?_⟩
    intro old hmem hold
    obtain ⟨before, -, rfl⟩ := List.mem_map.mp hmem
    by_cases hbefore : before.1 = location
    · rw [if_pos hbefore]
    · rw [if_neg hbefore] at hold
      exact absurd hold hbefore
  · rw [if_neg hsome]
    rw [Bool.not_eq_true, Option.isSome_eq_false_iff, Option.isNone_iff_eq_none] at hsome
    refine ⟨by simp [List.lookup_append, hsome], ?_⟩
    intro old hmem hold
    rcases List.mem_append.mp hmem with hmem | hmem
    · exact absurd hold (eq_of_lookup_eq_none hsome hmem)
    · exact List.mem_singleton.mp hmem

/-- What may be put once more may be so behind a change at another place. -/
theorem put_put_of_ne (hne : place ≠ location) (h : tree.put place other = tree)
    (entry : Entry) : (tree.put location entry).put place other = tree.put location entry := by
  obtain ⟨hsome, hall⟩ := put_eq_self_iff.mp h
  rw [put_eq_self_iff]
  unfold put
  by_cases hlocation : (tree.entries.lookup location).isSome = true
  · rw [if_pos hlocation]
    refine ⟨by rw [lookup_map_of_ne hne]; exact hsome, ?_⟩
    intro old hmem hold
    obtain ⟨before, hbefore, rfl⟩ := List.mem_map.mp hmem
    by_cases heq : before.1 = location
    · rw [if_pos heq] at hold
      exact absurd hold.symm hne
    · rw [if_neg heq] at hold ⊢
      exact hall before hbefore hold
  · rw [if_neg hlocation]
    refine ⟨by rw [List.lookup_append, Option.isSome_or, hsome, Bool.true_or], ?_⟩
    intro old hmem hold
    rcases List.mem_append.mp hmem with hmem | hmem
    · exact hall old hmem hold
    · rw [List.mem_singleton.mp hmem] at hold
      exact absurd hold.symm hne

/-! ## The same at some places -/

/-- The second tree has all folders of the first one and is the same at the places. -/
structure SameOn (places : Set Location) (tree after : FileTree) : Prop where
  keepsFolders : tree.KeepsFolders after
  entry?_eq : ∀ place ∈ places, after.entry? place = tree.entry? place
  put_eq : ∀ place ∈ places, ∀ entry, tree.put place entry = tree → after.put place entry = after

theorem SameOn.refl (places : Set Location) (tree : FileTree) : SameOn places tree tree :=
  ⟨KeepsFolders.refl tree, fun _ _ => rfl, fun _ _ _ h => h⟩

theorem SameOn.trans {places : Set Location} (h : SameOn places tree between)
    (h' : SameOn places between after) : SameOn places tree after := by
  refine ⟨h.keepsFolders.trans h'.keepsFolders, ?_, ?_⟩
  · intro place hplace
    rw [h'.entry?_eq place hplace, h.entry?_eq place hplace]
  · intro place hplace entry hentry
    exact h'.put_eq place hplace entry (h.put_eq place hplace entry hentry)

/-- Trees that are the same at more places are so at fewer. -/
theorem SameOn.mono {places fewer : Set Location} (h : SameOn places tree after)
    (hsubset : fewer ⊆ places) : SameOn fewer tree after :=
  ⟨h.keepsFolders, fun place hplace => h.entry?_eq place (hsubset hplace),
    fun place hplace => h.put_eq place (hsubset hplace)⟩

/-- What is put at a place leaves the others the same. -/
theorem sameOn_put {places : Set Location} (hne : location ≠ [])
    (hentry : tree.entry? location = some .folder → entry = .folder) (h : location ∉ places) :
    SameOn places tree (tree.put location entry) := by
  have hother : ∀ place ∈ places, place ≠ location := by
    rintro place hplace rfl
    exact h hplace
  refine ⟨keepsFolders_put hne hentry, ?_, ?_⟩
  · intro place hplace
    rw [FileTree.entry?_put hne, if_neg (hother place hplace)]
  · intro place hplace other hother'
    exact put_put_of_ne (hother place hplace) hother' entry

end StarterCode.FileTree
