import StarterCode.Proofs.Generation.Pass

/-!
# The course of a run

What a run answers, which events it records and which files it leaves depend on the files it finds
and on nothing else. `Yields` says so of one run: from the first tree it comes to the result, the
events and the second tree, whatever stands in the log before.

Two steps of a pass touch the tree. In a folder that is there, making a folder and writing a source
depend on what has the name already, and then their course is known in full (`yields_makeFolders`,
`yields_writeSource`, `yields_writeSource_of_folder`).
-/

set_option autoImplicit false

namespace StarterCode.Generation

variable {α β : Type}

/-- The run comes from the first tree to the result, the events and the second tree. -/
def Yields (action : GenerateM α) (before : FileTree) (result : Except Failure α)
    (events : List Event) (after : FileTree) : Prop :=
  ∀ log, action.run.run ⟨before, log⟩ = (result, ⟨after, log ++ events⟩)

section Chains

variable {first : GenerateM α} {next : α → GenerateM β} {a : α} {result : Except Failure β}
  {failure : Failure} {before between after : FileTree} {events events' : List Event}

theorem Yields.bind_ok (h : Yields first before (.ok a) events between)
    (h' : Yields (next a) between result events' after) :
    Yields (first >>= next) before result (events ++ events') after := by
  intro log
  rw [run_bind, h log]
  exact (h' _).trans (by rw [List.append_assoc])

theorem Yields.bind_error (h : Yields first before (.error failure) events after) :
    Yields (first >>= next) before (.error failure) events after := by
  intro log
  rw [run_bind, h log]

/-- There is only one course from a tree. -/
theorem Yields.run_eq (h : Yields first before (.ok a) events after) :
    first.run.run ⟨before, []⟩ = (.ok a, ⟨after, events⟩) :=
  h []

end Chains

/-! ## Steps that leave the tree -/

theorem yields_pure (a : α) (tree : FileTree) : Yields (pure a) tree (.ok a) [] tree := by
  intro log
  rw [List.append_nil]
  rfl

theorem yields_record (event : Event) (tree : FileTree) :
    Yields (record event) tree (.ok ()) [event] tree :=
  fun _ => rfl

theorem yields_ofResult (result : Except Failure α) (tree : FileTree) :
    Yields (ofResult result) tree result [] tree := by
  intro log
  rw [List.append_nil]
  rfl

theorem yields_ofResult_of_eq_ok {result : Except Failure α} {a : α} (h : result = .ok a)
    (tree : FileTree) : Yields (ofResult result) tree (.ok a) [] tree := by
  subst h
  exact yields_ofResult (.ok a) tree

/-! ## Steps that change it -/

/-- What is reported of a source that is written into a folder. -/
def fileOf (mode : Mode) (folder : String) (source : Language × Code) : GeneratedFile where
  language := source.1
  mode := mode
  path := Path.join folder source.1.fileName
  sha256 := Sha256.hexDigest (bytes source)
  bytes := (bytes source).size

section Steps

variable {tree : FileTree} {folder name : String} {location : Location} {source : Language × Code}

theorem yields_makeFolders (path : String) (tree : FileTree) :
    Yields (makeFolders path) tree ((tree.makeFolders path).2.mapError (Failure.file path)) []
      (tree.makeFolders path).1 := by
  intro log
  rw [run_makeFolders, List.append_nil]

/-- A folder that is free is made. -/
theorem yields_makeFolders_of_none (hfolder : tree.FolderAt folder location)
    (hname : Path.IsEntryName name) (h : tree.entry? (location ++ [name]) = none) :
    Yields (makeFolders (Path.join folder name)) tree (.ok ()) []
      (tree.put (location ++ [name]) .folder) := by
  have hyields := yields_makeFolders (Path.join folder name) tree
  rw [hfolder.makeFolders_join hname, h] at hyields
  exact hyields

/-- A folder that is there is left as it is. -/
theorem yields_makeFolders_of_folder (hfolder : tree.FolderAt folder location)
    (hname : Path.IsEntryName name) (h : tree.entry? (location ++ [name]) = some .folder) :
    Yields (makeFolders (Path.join folder name)) tree (.ok ()) [] tree := by
  have hyields := yields_makeFolders (Path.join folder name) tree
  rw [hfolder.makeFolders_join hname, h] at hyields
  exact hyields

/-- A file is in the way. -/
theorem yields_makeFolders_of_file (hfolder : tree.FolderAt folder location)
    (hname : Path.IsEntryName name) {content : ByteArray}
    (h : tree.entry? (location ++ [name]) = some (.file content)) :
    Yields (makeFolders (Path.join folder name)) tree
      (.error (.file (Path.join folder name) .taken)) [] tree := by
  have hyields := yields_makeFolders (Path.join folder name) tree
  rw [hfolder.makeFolders_join hname, h] at hyields
  exact hyields

theorem yields_writeFile {path : String} {content : ByteArray} {after : FileTree}
    (h : tree.writeFile path content = .ok after) :
    Yields (writeFile path content) tree (.ok ()) [] after := by
  intro log
  rw [run_writeFile, h, List.append_nil]

theorem yields_writeFile_of_error {path : String} {content : ByteArray} {fault : FileFault}
    (h : tree.writeFile path content = .error fault) :
    Yields (writeFile path content) tree (.error (.file path fault)) [] tree := by
  intro log
  rw [run_writeFile, h, List.append_nil]

/-- A source is written where no folder has its name. -/
theorem yields_writeSource (mode : Mode) (hfolder : tree.FolderAt folder location)
    (h : tree.entry? (location ++ [source.1.fileName]) ≠ some .folder) :
    Yields (writeSource mode folder source) tree (.ok (fileOf mode folder source))
      [.wrote (Path.join folder source.1.fileName) source.1 mode]
      (tree.put (location ++ [source.1.fileName]) (.file (bytes source))) := by
  have hwrite := hfolder.writeFile_join source.1.isEntryName_fileName h (bytes source)
  exact (yields_writeFile hwrite).bind_ok
    ((yields_record _ _).bind_ok (yields_pure (fileOf mode folder source) _))

/-- A folder is in the way. -/
theorem yields_writeSource_of_folder (mode : Mode) (hfolder : tree.FolderAt folder location)
    (h : tree.entry? (location ++ [source.1.fileName]) = some .folder) :
    Yields (writeSource mode folder source) tree
      (.error (.file (Path.join folder source.1.fileName) .isFolder)) [] tree := by
  have hwrite :=
    hfolder.writeFile_join_of_folder source.1.isEntryName_fileName h (bytes source)
  exact (yields_writeFile_of_error hwrite).bind_error

end Steps

/-! ## The whole -/

/-- What a run does when it has read the document. -/
def runOn (layout : GenerationLayout) (folder text : String) : GenerateM GenerationReport := do
  let (problem, stubs) ← writeStubs layout folder text
  let programs ← writePrograms layout folder text
  return ⟨problem.name, problem.functionName, stubs ++ programs⟩

theorem generate_eq_of_readDocument {layout : GenerationLayout} {folder text : String}
    {tree : FileTree} (h : readDocument layout folder tree = .ok text) :
    generate layout folder tree = (runOn layout folder text).run.run ⟨tree, []⟩ := by
  rw [generate, run, run_get_bind, h]
  rfl

theorem generate_eq_of_readDocument_eq_error {layout : GenerationLayout} {folder : String}
    {tree : FileTree} {failure : Failure} (h : readDocument layout folder tree = .error failure) :
    generate layout folder tree = (.error failure, ⟨tree, []⟩) := by
  rw [generate, run, run_get_bind, h]
  rfl

end StarterCode.Generation
