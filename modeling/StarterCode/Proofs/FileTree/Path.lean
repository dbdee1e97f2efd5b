import StarterCode.FileTree.Path
import StarterCode.Proofs.Text.Lines

/-!
# The names of a joined path

Cutting a text at a separator undoes putting a separator between two texts. For paths it follows
that the names of a folder with a name joined to it are those of the folder and then that name. The
one difference is a slash at the end of the folder, behind which there is an empty name that the
joined path no longer has.
-/

set_option autoImplicit false

namespace StarterCode

namespace Path

/-- A name that leads from a folder to an entry of that folder. -/
structure IsEntryName (name : String) : Prop where
  not_mem : '/' ∉ name.toList
  ne_empty : name ≠ ""
  ne_dot : name ≠ "."
  ne_dots : name ≠ ".."

instance (name : String) : Decidable (IsEntryName name) :=
  decidable_of_iff ('/' ∉ name.toList ∧ name ≠ "" ∧ name ≠ "." ∧ name ≠ "..")
    ⟨fun ⟨hslash, hempty, hdot, hdots⟩ => ⟨hslash, hempty, hdot, hdots⟩,
      fun h => ⟨h.not_mem, h.ne_empty, h.ne_dot, h.ne_dots⟩⟩

theorem IsEntryName.staysPut {name : String} (h : IsEntryName name) : staysPut name = false := by
  simp [Path.staysPut, h.ne_empty, h.ne_dot]

theorem IsEntryName.isAbsolute {name : String} (h : IsEntryName name) :
    isAbsolute name = false := by
  rw [Path.isAbsolute, beq_eq_false_iff_ne]
  intro hhead
  obtain ⟨rest, hname⟩ := List.head?_eq_some_iff.mp hhead
  exact h.not_mem (hname ▸ List.mem_cons_self)

/-- The names of a joined path. -/
theorem exists_names_join {folder name : String} (hfolder : folder ≠ "") (h : IsEntryName name) :
    ∃ front, names (join folder name) = front ++ [name] ∧
      (names folder = front ∨ names folder = front ++ [""]) := by
  have hname : names name = [name] := by
    rw [names, Text.pieces_of_not_mem h.not_mem, List.map_singleton, String.ofList_toList]
  have hempty : folder.isEmpty = false := by simp [hfolder]
  rw [join, h.isAbsolute, hempty, Bool.or_self, if_neg Bool.false_ne_true]
  by_cases hslash : (folder.toList.getLast? == some '/') = true
  · -- the slash is there already, and the empty name behind it gives way
    obtain ⟨front, hfront⟩ := List.getLast?_eq_some_iff.mp (beq_iff_eq.mp hslash)
    refine ⟨(Text.pieces '/' front).map String.ofList, ?_, .inr ?_⟩
    · rw [if_pos hslash, names, String.toList_append, hfront, List.append_assoc,
        List.singleton_append, Text.pieces_append_cons, List.map_append]
      exact congrArg _ hname
    · rw [names, hfront, Text.pieces_append_cons, List.map_append]
      rfl
  · refine ⟨names folder, ?_, .inl rfl⟩
    rw [if_neg hslash, names, String.toList_append, String.toList_append, List.append_assoc]
    have hsep : "/".toList ++ name.toList = '/' :: name.toList := rfl
    rw [hsep, Text.pieces_append_cons, List.map_append]
    exact congrArg _ hname

/-- A joined path is absolute if the folder is. -/
theorem isAbsolute_join {folder name : String} (hfolder : folder ≠ "") (h : IsEntryName name) :
    isAbsolute (join folder name) = isAbsolute folder := by
  have hempty : folder.isEmpty = false := by simp [hfolder]
  have hhead : ∀ rest : String, (folder ++ rest).toList.head? = folder.toList.head? := by
    intro rest
    obtain ⟨c, front, hfront⟩ : ∃ c front, folder.toList = c :: front :=
      List.exists_cons_of_ne_nil (by simpa using hfolder)
    rw [String.toList_append, hfront, List.cons_append, List.head?_cons, List.head?_cons]
  rw [join, h.isAbsolute, hempty, Bool.or_self, if_neg Bool.false_ne_true]
  split
  · rw [isAbsolute, hhead, isAbsolute]
  · rw [isAbsolute, String.append_assoc, hhead, isAbsolute]

/-- A joined path ends as the name does. -/
theorem getLast?_join {name : String} (h : name ≠ "") (folder : String) :
    (join folder name).toList.getLast? = name.toList.getLast? := by
  have hend : ∀ front : List Char, (front ++ name.toList).getLast? = name.toList.getLast? := by
    intro front
    rw [List.getLast?_append, Option.or_of_isSome]
    simpa using h
  rw [join]
  split
  · rfl
  · split
    · rw [String.toList_append, hend]
    · rw [String.toList_append, hend]

/-- A joined path is not empty. -/
theorem join_ne_empty {folder name : String} (h : IsEntryName name) : join folder name ≠ "" := by
  rw [join]
  split
  · exact h.ne_empty
  · split <;> simp [h.ne_empty]

/-- Nor is a path that is joined to one that is not empty. -/
theorem join_ne_empty_of_ne_empty {folder : String} (h : folder ≠ "") (rest : String) :
    join folder rest ≠ "" := by
  have hempty : folder.isEmpty = false := by simp [h]
  rw [join, hempty, Bool.or_false]
  split
  · next habsolute =>
    rintro rfl
    cases habsolute
  · split <;> simp [h]

end Path

end StarterCode
