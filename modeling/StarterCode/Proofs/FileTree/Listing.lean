import Mathlib.Data.List.Perm.Basic
import StarterCode.FileTree
import StarterCode.Proofs.Lookup

/-!
# Trees that are listed in another order

The entries of a tree stand in the order in which its folders list them. Two trees can hold the same
at every place and still differ in that order (`HoldsSame`). Whatever looks at places sees no
difference between them: every path leads to the same place, and what is there is the same.

Where no place has two entries, no order is better than another. However the names in a folder are
arranged, there is a tree that holds the same and lists them that way
(`exists_holdsSame_of_perm`).
-/

set_option autoImplicit false

namespace StarterCode

/-! ## Arranging a list by its values -/

/-- A list some members of which have a value can be arranged so that the values come in any order.
-/
theorem exists_perm_filterMap_eq {α β : Type} {value? : α → Option β} {list : List α}
    {values : List β} (h : values.Perm (list.filterMap value?)) :
    ∃ arranged : List α, arranged.Perm list ∧ arranged.filterMap value? = values := by
  -- the members with a value are taken along with their values, and the others go to the front
  have hvalued : List.Forall₂ (fun value a => value? a = some value) (list.filterMap value?)
      (list.filter fun a => (value? a).isSome) := by
    clear h
    induction list with
    | nil => exact .nil
    | cons a list ih =>
      cases ha : value? a with
      | none =>
        rw [List.filterMap_cons_none ha, List.filter_cons_of_neg (by simp [ha])]
        exact ih
      | some value =>
        rw [List.filterMap_cons_some ha, List.filter_cons_of_pos (by simp [ha])]
        exact .cons ha ih
  obtain ⟨valued, hvalues, hperm⟩ := List.perm_comp_forall₂ h hvalued
  refine ⟨list.filter (fun a => !(value? a).isSome) ++ valued, ?_, ?_⟩
  · refine ((hperm.append_left _).trans List.perm_append_comm).trans ?_
    exact List.filter_append_perm (fun a => (value? a).isSome) list
  · have hfront : (list.filter fun a => !(value? a).isSome).filterMap value? = [] := by
      rw [List.filterMap_eq_nil_iff]
      intro a ha
      simpa using (List.mem_filter.mp ha).2
    rw [List.filterMap_append, hfront, List.nil_append]
    clear h hperm
    induction hvalues with
    | nil => rfl
    | cons ha _ ih => rw [List.filterMap_cons_some ha, ih]

namespace FileTree

/-! ## Trees that hold the same -/

/-- The second tree holds at every place what the first one holds there, and paths start at the same
place in both. -/
structure HoldsSame (tree other : FileTree) : Prop where
  current_eq : other.current = tree.current
  entry?_eq : ∀ place, other.entry? place = tree.entry? place

namespace HoldsSame

variable {tree other : FileTree}

theorem follow_eq (h : tree.HoldsSame other) (names : List String) (location : Location) :
    other.follow location names = tree.follow location names := by
  induction names generalizing location with
  | nil => rfl
  | cons name names ih =>
    rw [follow, follow, h.entry?_eq]
    split
    · rfl
    · rfl
    · exact ih (step location name)

theorem locate_eq (h : tree.HoldsSame other) (path : String) :
    other.locate path = tree.locate path := by
  rw [locate, locate, start, start, h.current_eq, h.follow_eq]

theorem find_eq (h : tree.HoldsSame other) (path : String) : other.find path = tree.find path := by
  simp only [find, h.locate_eq, h.entry?_eq]

theorem isFolder_eq (h : tree.HoldsSame other) (path : String) :
    other.isFolder path = tree.isFolder path := by
  rw [isFolder, isFolder, h.find_eq]

theorem isFile_eq (h : tree.HoldsSame other) (path : String) :
    other.isFile path = tree.isFile path := by
  rw [isFile, isFile, h.find_eq]

theorem readText_eq (h : tree.HoldsSame other) (path : String) :
    other.readText path = tree.readText path := by
  rw [readText, readText, readBytes, readBytes, h.find_eq]

end HoldsSame

/-! ## Arranging the entries -/

/-- No place has two entries. -/
def Distinct (tree : FileTree) : Prop :=
  (tree.entries.map (·.1)).Nodup

/-- The same entries in another order hold the same. -/
theorem Distinct.holdsSame {tree : FileTree} (h : tree.Distinct) {entries : List (Location × Entry)}
    (hperm : entries.Perm tree.entries) : tree.HoldsSame { tree with entries } := by
  refine ⟨rfl, fun place => ?_⟩
  unfold FileTree.entry?
  rw [lookup_eq_of_perm hperm h]

/-- The names in a folder can be listed in any order. -/
theorem exists_holdsSame_of_perm {tree : FileTree} (h : tree.Distinct) {path : String}
    {names : List String} (hnames : names.Perm (tree.list path)) :
    ∃ other, tree.HoldsSame other ∧ other.list path = names := by
  cases hlocate : tree.locate path with
  | error fault =>
    -- there is no folder, so nothing is listed
    rw [list, hlocate] at hnames
    refine ⟨tree, ⟨rfl, fun _ => rfl⟩, ?_⟩
    rw [list, hlocate, hnames.eq_nil]
  | ok location =>
    rw [list, hlocate] at hnames
    obtain ⟨entries, hperm, hlist⟩ := exists_perm_filterMap_eq hnames
    have hsame := h.holdsSame hperm
    refine ⟨_, hsame, ?_⟩
    rw [list, hsame.locate_eq, hlocate]
    exact hlist

end FileTree

end StarterCode
