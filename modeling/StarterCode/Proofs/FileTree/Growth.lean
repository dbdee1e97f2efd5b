import StarterCode.Proofs.FileTree.Changes

/-!
# Trees that grow

Making folders takes nothing away. Whatever path is asked for, with `..` and `.` in it or a file in
the middle, and whether or not all folders of it come to be, everything that was in the tree is
still there (`grows_makeFolders`). Writing a file may replace a file, but it leaves every folder
(`keepsFolders_of_writeFile`), so paths lead where they led before.

A path made by joining a name to another one leads to something only if the other path leads to a
folder (`exists_folderAt_of_locate_join`). With this, what is written at a joined path tells where
the path in front of it leads, however that path is spelled.
-/

set_option autoImplicit false

namespace StarterCode.FileTree

variable {tree between after : FileTree}

theorem KeepsFolders.refl (tree : FileTree) : tree.KeepsFolders tree :=
  ⟨rfl, fun _ h => h⟩

theorem KeepsFolders.trans (h : tree.KeepsFolders between) (h' : between.KeepsFolders after) :
    tree.KeepsFolders after := by
  refine ⟨h'.current_eq.trans h.current_eq, ?_⟩
  intro place hplace
  exact h'.keeps place (h.keeps place hplace)

/-! ## Nothing is taken away -/

/-- Paths start at the same place in both trees, and what is in the first one is in the second
one. -/
structure Grows (tree after : FileTree) : Prop where
  current_eq : after.current = tree.current
  keeps : ∀ place entry, tree.entry? place = some entry → after.entry? place = some entry

theorem Grows.refl (tree : FileTree) : tree.Grows tree :=
  ⟨rfl, fun _ _ h => h⟩

theorem Grows.trans (h : tree.Grows between) (h' : between.Grows after) : tree.Grows after := by
  refine ⟨h'.current_eq.trans h.current_eq, ?_⟩
  intro place entry hplace
  exact h'.keeps place entry (h.keeps place entry hplace)

theorem Grows.keepsFolders (h : tree.Grows after) : tree.KeepsFolders after :=
  ⟨h.current_eq, fun place hplace => h.keeps place .folder hplace⟩

/-- The root is a folder, so a place that is free is another one. -/
theorem ne_nil_of_entry?_eq_none {location : Location} (h : tree.entry? location = none) :
    location ≠ [] := by
  rintro rfl
  cases h

theorem grows_put {location : Location} (h : tree.entry? location = none) (entry : Entry) :
    tree.Grows (tree.put location entry) := by
  refine ⟨current_put tree location entry, ?_⟩
  intro place other hplace
  have hne : place ≠ location := by
    rintro rfl
    rw [h] at hplace
    cases hplace
  rw [FileTree.entry?_put (ne_nil_of_entry?_eq_none h), if_neg hne]
  exact hplace

theorem grows_of_makeFolder {location : Location} {names : List String}
    (h : tree.makeFolder location names = .ok after) : tree.Grows after := by
  obtain ⟨place, -, h⟩ := bind_eq_ok.mp h
  by_cases htaken : (tree.entry? place).isSome = true
  · rw [if_pos htaken] at h
    cases h
  · rw [if_neg htaken] at h
    rw [Bool.not_eq_true, Option.isSome_eq_false_iff, Option.isNone_iff_eq_none] at htaken
    cases h
    exact grows_put htaken .folder

theorem grows_ensureFolder (tree : FileTree) (location : Location) (names : List String) :
    tree.Grows (tree.ensureFolder location names).1 := by
  unfold ensureFolder
  split
  · next made hmade => exact grows_of_makeFolder hmade
  · split
    · exact Grows.refl tree
    · exact Grows.refl tree

theorem grows_makeFolderAfter {makeAbove : FileTree → Change}
    (h : ∀ tree : FileTree, tree.Grows (makeAbove tree).1) (location : Location)
    (names : List String) (tree : FileTree) :
    tree.Grows (makeFolderAfter makeAbove location names tree).1 := by
  unfold makeFolderAfter
  split
  · have habove := h tree
    split
    · next made hmade =>
      rw [hmade] at habove
      exact habove.trans (grows_ensureFolder made location names)
    · exact habove
  · exact grows_ensureFolder tree location names

theorem grows_makeFoldersFrom (location : Location) (names : List String) (tree : FileTree) :
    tree.Grows (makeFoldersFrom location names tree).1 := by
  induction names generalizing tree with
  | nil => exact Grows.refl tree
  | cons name names ih => exact grows_makeFolderAfter ih location _ tree

/-- **Making folders takes nothing away,** whether it succeeds or not. -/
theorem grows_makeFolders (tree : FileTree) (path : String) :
    tree.Grows (tree.makeFolders path).1 := by
  unfold makeFolders
  split
  · exact Grows.refl tree
  · exact grows_makeFolderAfter (grows_makeFoldersFrom _ _) _ _ tree

/-! ## Files that are written -/

/-- A file is written at the place that the path leads to, unless there is a folder. -/
theorem writeFile_eq_ok_iff {path : String} {content : ByteArray} :
    tree.writeFile path content = .ok after ↔
      ∃ location, tree.locate path = .ok location ∧ tree.entry? location ≠ some .folder ∧
        after = tree.put location (.file content) := by
  rw [writeFile, bind_eq_ok]
  refine exists_congr fun location => and_congr_right fun _ => ?_
  constructor
  · intro h
    split at h
    · cases h
    · next hentry =>
      cases h
      exact ⟨hentry, rfl⟩
  · rintro ⟨hentry, rfl⟩
    split
    · next hfolder => exact absurd hfolder hentry
    · rfl

theorem keepsFolders_of_writeFile {path : String} {content : ByteArray}
    (h : tree.writeFile path content = .ok after) : tree.KeepsFolders after := by
  obtain ⟨location, -, hentry, rfl⟩ := writeFile_eq_ok_iff.mp h
  have hne : location ≠ [] := by
    rintro rfl
    exact hentry rfl
  exact keepsFolders_put hne fun hfolder => absurd hfolder hentry

/-! ## Joined paths -/

/-- What leads to somewhere behind a folder leads to the folder first. -/
theorem follow_concat_eq_ok {location place : Location} {front : List String} {name : String}
    (h : tree.follow location (front ++ [name]) = .ok place) :
    ∃ inner, tree.follow location front = .ok inner ∧ tree.entry? inner = some .folder ∧
      place = step inner name := by
  rw [follow_append] at h
  obtain ⟨inner, hinner, hlast⟩ := bind_eq_ok.mp h
  rw [follow] at hlast
  split at hlast
  · cases hlast
  · cases hlast
  · next hfolder =>
    cases hlast
    exact ⟨inner, hinner, hfolder, rfl⟩

/-- A path with a name joined to it leads to somewhere only where the path leads to a folder, and
then to the entry of that name. -/
theorem exists_folderAt_of_locate_join {folder name : String} {place : Location}
    (hne : folder ≠ "") (hname : Path.IsEntryName name)
    (h : tree.locate (Path.join folder name) = .ok place) :
    ∃ location, tree.FolderAt folder location ∧ place = location ++ [name] := by
  obtain ⟨front, hnames, hfront⟩ := Path.exists_names_join hne hname
  have hjoined : (Path.join folder name).isEmpty = false := by simp [Path.join_ne_empty hname]
  have hempty : folder.isEmpty = false := by simp [hne]
  have hstart : tree.start (Path.join folder name) = tree.start folder := by
    rw [start, Path.isAbsolute_join hne hname, start]
  rw [locate, hjoined, if_neg Bool.false_ne_true, hnames, hstart] at h
  obtain ⟨location, hfollow, hfolder, hplace⟩ := follow_concat_eq_ok h
  refine ⟨location, ⟨?_, hfolder⟩, by rw [hplace, step_of_isEntryName hname]⟩
  rw [locate, hempty, if_neg Bool.false_ne_true]
  by_cases hsame : Path.names folder = front
  · rw [hsame]
    exact hfollow
  · -- the empty name at the end of the path stays in the folder
    rw [hfront.resolve_left hsame, follow_append, hfollow]
    exact follow_cons hfolder "" []

end StarterCode.FileTree
