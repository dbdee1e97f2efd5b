import StarterCode.FileTree
import StarterCode.Proofs.FileTree.Path
import StarterCode.Proofs.Result

/-!
# What changes in a file tree

Everything that is done to a tree comes down to `put`, which changes what is at one location and
nothing else. As long as no folder is lost, a path that leads somewhere leads there in the changed
tree as well.

Most of what is done happens directly in a folder that is there. A path made by joining a name to
the path of such a folder leads to the entry of that name, and making a folder or writing a file
there depends on nothing but that entry.
-/

set_option autoImplicit false

namespace StarterCode.FileTree

variable {tree after : FileTree}

/-! ## One entry -/

theorem lookup_map_of_ne {entries : List (Location × Entry)} {location place : Location}
    (h : place ≠ location) (entry : Entry) :
    (entries.map fun old => if old.1 = location then (location, entry) else old).lookup place =
      entries.lookup place := by
  induction entries with
  | nil => rfl
  | cons old rest ih =>
    rw [List.map_cons, List.lookup_cons, List.lookup_cons, ih]
    by_cases hold : old.1 = location
    · have hplace : (place == location) = false := beq_eq_false_iff_ne.mpr h
      rw [if_pos hold, hold, hplace]
    · rw [if_neg hold]

theorem lookup_map_self {entries : List (Location × Entry)} {location : Location}
    (h : (entries.lookup location).isSome = true) (entry : Entry) :
    (entries.map fun old => if old.1 = location then (location, entry) else old).lookup location =
      some entry := by
  induction entries with
  | nil => cases h
  | cons old rest ih =>
    rw [List.map_cons, List.lookup_cons]
    by_cases hold : old.1 = location
    · rw [if_pos hold, beq_self_eq_true]
    · have hne : (location == old.1) = false := beq_eq_false_iff_ne.mpr (Ne.symm hold)
      rw [List.lookup_cons, hne] at h
      rw [if_neg hold, hne]
      exact ih h

/-- What is put at a location is there, and everything else is as before. -/
theorem entry?_put {location : Location} (h : location ≠ []) (tree : FileTree) (entry : Entry)
    (place : Location) : FileTree.entry? (tree.put location entry) place =
      if place = location then some entry else tree.entry? place := by
  have hroot : location.isEmpty = false := by simpa using h
  unfold put
  split
  · next hsome =>
    by_cases hplace : place = location
    · rw [if_pos hplace, hplace, entry?, hroot, if_neg Bool.false_ne_true]
      exact lookup_map_self hsome entry
    · rw [if_neg hplace, entry?, entry?, lookup_map_of_ne hplace]
  · next hnone =>
    rw [Bool.not_eq_true, Option.isSome_eq_false_iff, Option.isNone_iff_eq_none] at hnone
    by_cases hplace : place = location
    · rw [if_pos hplace, hplace, entry?, hroot, if_neg Bool.false_ne_true, List.lookup_append,
        hnone]
      simp
    · have hne : (place == location) = false := beq_eq_false_iff_ne.mpr hplace
      rw [if_neg hplace, entry?, entry?, List.lookup_append, List.lookup_cons, hne, List.lookup_nil,
        Option.or_none]

theorem current_put (tree : FileTree) (location : Location) (entry : Entry) :
    (tree.put location entry).current = tree.current := by
  unfold put
  split <;> rfl

/-! ## Following names -/

theorem follow_append (tree : FileTree) (location : Location) (names names' : List String) :
    tree.follow location (names ++ names') =
      tree.follow location names >>= fun place => tree.follow place names' := by
  induction names generalizing location with
  | nil => rfl
  | cons name names ih =>
    rw [List.cons_append, follow, follow]
    split
    · rfl
    · rfl
    · exact ih (step location name)

/-- From a folder, a name leads on. -/
theorem follow_cons {location : Location} (h : tree.entry? location = some .folder) (name : String)
    (rest : List String) :
    tree.follow location (name :: rest) = tree.follow (step location name) rest := by
  rw [follow, h]

/-- Names that stay where they are make no difference on a way that exists. -/
theorem follow_filter {location place : Location} {names : List String}
    (h : tree.follow location names = .ok place) :
    tree.follow location (names.filter (!Path.staysPut ·)) = .ok place := by
  induction names generalizing location with
  | nil => exact h
  | cons name names ih =>
    rw [follow] at h
    split at h
    · cases h
    · cases h
    · next hfolder =>
      cases hname : Path.staysPut name with
      | true =>
        rw [step, hname, if_pos rfl] at h
        rw [List.filter_cons_of_neg (by simp [hname])]
        exact ih h
      | false =>
        rw [List.filter_cons_of_pos (by simp [hname]), follow_cons hfolder]
        exact ih h

/-- The name of an entry leads to the entry. -/
theorem step_of_isEntryName {name : String} (h : Path.IsEntryName name) (location : Location) :
    step location name = location ++ [name] := by
  rw [step, h.staysPut, if_neg Bool.false_ne_true, if_neg h.ne_dots]

/-! ## Folders that stay -/

/-- Paths start at the same place in both trees, and every folder of the first is one of the
second. -/
structure KeepsFolders (tree after : FileTree) : Prop where
  current_eq : after.current = tree.current
  keeps : ∀ place, tree.entry? place = some .folder → after.entry? place = some .folder

/-- Putting something keeps the folders if no folder was there or a folder is put. -/
theorem keepsFolders_put {location : Location} (h : location ≠ []) {entry : Entry}
    (hentry : tree.entry? location = some .folder → entry = .folder) :
    tree.KeepsFolders (tree.put location entry) := by
  refine ⟨current_put _ _ _, ?_⟩
  intro place hplace
  rw [FileTree.entry?_put h]
  split
  · next heq => rw [hentry (heq ▸ hplace)]
  · exact hplace

theorem KeepsFolders.follow (h : tree.KeepsFolders after) {location place : Location}
    {names : List String} (hfollow : tree.follow location names = .ok place) :
    after.follow location names = .ok place := by
  induction names generalizing location with
  | nil => exact hfollow
  | cons name names ih =>
    rw [FileTree.follow] at hfollow
    split at hfollow
    · cases hfollow
    · cases hfollow
    · next hfolder =>
      rw [follow_cons (h.keeps _ hfolder)]
      exact ih hfollow

/-! ## In a folder that is there -/

/-- The path leads to a folder, which is at the location. -/
structure FolderAt (tree : FileTree) (path : String) (location : Location) : Prop where
  locate_eq : tree.locate path = .ok location
  entry?_eq : tree.entry? location = some .folder

theorem isFolder_iff {path : String} :
    tree.isFolder path = true ↔ ∃ location, tree.FolderAt path location := by
  unfold isFolder find
  constructor
  · intro h
    cases hlocate : tree.locate path with
    | error fault => simp [hlocate, bind, Except.bind] at h
    | ok location =>
      rw [hlocate] at h
      cases hentry : tree.entry? location with
      | none => simp [hentry, bind, Except.bind] at h
      | some entry =>
        cases entry with
        | folder => exact ⟨location, hlocate, hentry⟩
        | file content => simp [hentry, bind, Except.bind] at h
  · rintro ⟨location, hlocate, hentry⟩
    simp [hlocate, hentry, bind, Except.bind]

variable {folder name : String} {location : Location}

theorem FolderAt.ne_empty (h : tree.FolderAt folder location) : folder ≠ "" := by
  rintro rfl
  cases h.locate_eq

theorem FolderAt.follow_eq (h : tree.FolderAt folder location) :
    tree.follow (tree.start folder) (Path.names folder) = .ok location := by
  have hlocate := h.locate_eq
  have hempty : folder.isEmpty = false := by simp [h.ne_empty]
  rwa [locate, hempty, if_neg Bool.false_ne_true] at hlocate

theorem KeepsFolders.folderAt (h : tree.KeepsFolders after)
    (hfolder : tree.FolderAt folder location) : after.FolderAt folder location := by
  refine ⟨?_, h.keeps _ hfolder.entry?_eq⟩
  have hempty : folder.isEmpty = false := by simp [hfolder.ne_empty]
  have hstart : after.start folder = tree.start folder := by rw [start, start, h.current_eq]
  rw [locate, hempty, if_neg Bool.false_ne_true, hstart]
  exact h.follow hfolder.follow_eq

/-- The names of a path joined to a folder lead through the folder. -/
theorem FolderAt.exists_names_join (h : tree.FolderAt folder location)
    (hname : Path.IsEntryName name) :
    ∃ front, Path.names (Path.join folder name) = front ++ [name] ∧
      tree.start (Path.join folder name) = tree.start folder ∧
      tree.follow (tree.start folder) front = .ok location := by
  obtain ⟨front, hnames, hfront⟩ := Path.exists_names_join h.ne_empty hname
  refine ⟨front, hnames, by rw [start, Path.isAbsolute_join h.ne_empty hname, start], ?_⟩
  have hfollow := h.follow_eq
  rcases hfront with hfront | hfront
  · exact hfront ▸ hfollow
  · -- the empty name at the end leads from the folder to the folder
    rw [hfront, follow_append] at hfollow
    obtain ⟨place, hplace, hlast⟩ := bind_eq_ok.mp hfollow
    rw [follow] at hlast
    split at hlast
    · cases hlast
    · cases hlast
    · cases hlast
      exact hplace

/-- A name joined to a folder leads to its entry. -/
theorem FolderAt.locate_join (h : tree.FolderAt folder location) (hname : Path.IsEntryName name) :
    tree.locate (Path.join folder name) = .ok (location ++ [name]) := by
  obtain ⟨front, hnames, hstart, hfront⟩ := h.exists_names_join hname
  have hempty : (Path.join folder name).isEmpty = false := by simp [Path.join_ne_empty hname]
  rw [locate, hempty, if_neg Bool.false_ne_true, hnames, hstart, follow_append, hfront]
  exact (follow_cons h.entry?_eq name []).trans (congrArg _ (step_of_isEntryName hname location))

/-- Where there is no folder of that name, a file is written. -/
theorem FolderAt.writeFile_join (h : tree.FolderAt folder location) (hname : Path.IsEntryName name)
    (hentry : tree.entry? (location ++ [name]) ≠ some .folder) (content : ByteArray) :
    tree.writeFile (Path.join folder name) content =
      .ok (tree.put (location ++ [name]) (.file content)) := by
  rw [writeFile, h.locate_join hname]
  simp only [bind, Except.bind]

/-- Where there is one, none is. -/
theorem FolderAt.writeFile_join_of_folder (h : tree.FolderAt folder location)
    (hname : Path.IsEntryName name) (hentry : tree.entry? (location ++ [name]) = some .folder)
    (content : ByteArray) : tree.writeFile (Path.join folder name) content = .error .isFolder := by
  rw [writeFile, h.locate_join hname]
  simp only [bind, Except.bind, hentry]

/-- Making a folder directly in a folder depends on what has the name. -/
theorem FolderAt.makeFolders_join (h : tree.FolderAt folder location)
    (hname : Path.IsEntryName name) : tree.makeFolders (Path.join folder name) =
      match tree.entry? (location ++ [name]) with
      | none => (tree.put (location ++ [name]) .folder, .ok ())
      | some .folder => (tree, .ok ())
      | some (.file _) => (tree, .error .taken) := by
  obtain ⟨front, hnames, hstart, hfront⟩ := h.exists_names_join hname
  have hlast : (name == "") = false := beq_eq_false_iff_ne.mpr hname.ne_empty
  have hwanted : (Path.names (Path.join folder name)).reverse.dropWhile (· == "") =
      name :: front.reverse := by
    rw [hnames, List.reverse_append, List.reverse_singleton, List.singleton_append,
      List.dropWhile_cons_of_neg (by simp [hlast])]
  -- the folders above are there, so the first attempt already meets the last name
  have hfollow : tree.follow (tree.start folder)
      (name :: (front.reverse.filter (!Path.staysPut ·))).reverse = .ok (location ++ [name]) := by
    rw [List.reverse_cons, ← List.filter_reverse, List.reverse_reverse, follow_append,
      follow_filter hfront]
    exact (follow_cons h.entry?_eq name []).trans (congrArg _ (step_of_isEntryName hname location))
  simp only [makeFolders, hwanted, if_neg hname.ne_dot, hstart, makeFolderAfter, ensureFolder,
    makeFolder, hfollow, bind, Except.bind]
  cases hentry : tree.entry? (location ++ [name]) with
  | none => rfl
  | some entry =>
    cases entry with
    | folder => simp [Except.toOption, hentry]
    | file content => simp [Except.toOption, hentry]

end StarterCode.FileTree
