import StarterCode.Generation
import StarterCode.Proofs.FileTree.Changes

/-!
# One pass

A pass of the generation makes all its sources and then writes them into a folder. What it does to
the tree is settled here once for both passes: `writeSource` is one step, which puts a file into the
folder or fails at it, and `writeSources` is a run of such steps behind the making of the folder.

A run of `GenerateM` is its result with the session behind it. Chains are taken apart by
`run_bind_eq_ok` and `run_bind_eq_error`, as `bind_eq_ok` and `bind_eq_error` do for plain results.
-/

set_option autoImplicit false

namespace StarterCode

theorem Language.mem_all (language : Language) : language ∈ Language.all := by
  cases language <;> decide

theorem Language.isEntryName_fileName (language : Language) :
    Path.IsEntryName language.fileName := by
  cases language <;> decide

theorem Language.fileName_injective {language language' : Language}
    (h : language.fileName = language'.fileName) : language = language' := by
  revert h
  cases language <;> cases language' <;> decide

namespace Generation

variable {α β : Type}

/-! ## Runs -/

theorem run_bind (first : GenerateM α) (next : α → GenerateM β) (session : Session) :
    (first >>= next).run.run session =
      match first.run.run session with
      | (.ok a, between) => (next a).run.run between
      | (.error failure, between) => (.error failure, between) := by
  change StateT.bind first (ExceptT.bindCont next) session = _
  rcases h : first.run.run session with ⟨_ | a, between⟩
  · change first session = _ at h
    simp [StateT.bind, h, bind]
    rfl
  · change first session = _ at h
    simp [StateT.bind, h, bind]
    rfl

/-- A chain succeeds when both of its parts do. -/
theorem run_bind_eq_ok {first : GenerateM α} {next : α → GenerateM β} {b : β}
    {session after : Session} :
    (first >>= next).run.run session = (.ok b, after) ↔
      ∃ a between, first.run.run session = (.ok a, between) ∧
        (next a).run.run between = (.ok b, after) := by
  rw [run_bind]
  rcases first.run.run session with ⟨_ | a, between⟩
  · refine ⟨fun h => (by cases h), ?_⟩
    rintro ⟨_, _, hfirst, -⟩
    cases hfirst
  · refine ⟨fun h => ⟨a, between, rfl, h⟩, ?_⟩
    rintro ⟨_, _, hfirst, h⟩
    cases hfirst
    exact h

/-- A chain fails when its first part does, or when its first part succeeds and its second fails. -/
theorem run_bind_eq_error {first : GenerateM α} {next : α → GenerateM β} {failure : Failure}
    {session after : Session} :
    (first >>= next).run.run session = (.error failure, after) ↔
      first.run.run session = (.error failure, after) ∨
        ∃ a between, first.run.run session = (.ok a, between) ∧
          (next a).run.run between = (.error failure, after) := by
  rw [run_bind]
  rcases first.run.run session with ⟨_ | a, between⟩
  · refine ⟨fun h => .inl (by cases h; rfl), ?_⟩
    rintro (h | ⟨_, _, hfirst, -⟩)
    · cases h
      rfl
    · cases hfirst
  · refine ⟨fun h => .inr ⟨a, between, rfl, h⟩, ?_⟩
    rintro (h | ⟨_, _, hfirst, h⟩)
    · cases h
    · cases hfirst
      exact h

/-- A result in front of a chain leaves the session as it is. -/
theorem run_ofResult_bind_eq_ok {result : Except Failure α} {next : α → GenerateM β} {b : β}
    {session after : Session} :
    (ofResult result >>= next).run.run session = (.ok b, after) ↔
      ∃ a, result = .ok a ∧ (next a).run.run session = (.ok b, after) := by
  rw [run_bind_eq_ok]
  constructor
  · rintro ⟨a, _, hresult, h⟩
    cases hresult
    exact ⟨a, rfl, h⟩
  · rintro ⟨a, rfl, h⟩
    exact ⟨a, session, rfl, h⟩

/-- Its failure is that of the chain. -/
theorem run_ofResult_bind_eq_error {result : Except Failure α} {next : α → GenerateM β}
    {failure : Failure} {session after : Session} :
    (ofResult result >>= next).run.run session = (.error failure, after) ↔
      (result = .error failure ∧ after = session) ∨
        ∃ a, result = .ok a ∧ (next a).run.run session = (.error failure, after) := by
  rw [run_bind_eq_error]
  constructor
  · rintro (h | ⟨a, _, hresult, h⟩)
    · cases h
      exact .inl ⟨rfl, rfl⟩
    · cases hresult
      exact .inr ⟨a, rfl, h⟩
  · rintro (⟨rfl, rfl⟩ | ⟨a, rfl, h⟩)
    · exact .inl rfl
    · exact .inr ⟨a, session, rfl, h⟩

/-- An event in front of a chain is in the log, and the files are as they are. -/
theorem run_record_bind (event : Event) (next : Unit → GenerateM α) (session : Session) :
    (record event >>= next).run.run session =
      (next ()).run.run { session with log := session.log ++ [event] } :=
  rfl

/-- So they are behind a look at the session. -/
theorem run_get_bind (next : Session → GenerateM α) (session : Session) :
    (get >>= next).run.run session = (next session).run.run session :=
  rfl

theorem run_makeFolders (path : String) (session : Session) :
    (makeFolders path).run.run session =
      ((session.tree.makeFolders path).2.mapError (Failure.file path),
        { session with tree := (session.tree.makeFolders path).1 }) := by
  rw [makeFolders, run_get_bind]
  rcases session.tree.makeFolders path with ⟨after, _ | _⟩ <;> rfl

theorem run_writeFile (path : String) (content : ByteArray) (session : Session) :
    (writeFile path content).run.run session =
      match session.tree.writeFile path content with
      | .ok tree => (.ok (), { session with tree })
      | .error fault => (.error (.file path fault), session) := by
  rw [writeFile, run_get_bind]
  cases session.tree.writeFile path content <;> rfl

/-! ## One source -/

/-- The bytes of a source file. -/
def bytes (source : Language × Code) : ByteArray :=
  source.2.text.toUTF8

/-- A source that is written is put into the folder, where no folder has its name. -/
theorem tree_of_writeSource {mode : Mode} {folder : String} {source : Language × Code}
    {session after : Session} {file : GeneratedFile} {location : Location}
    (hfolder : session.tree.FolderAt folder location)
    (h : (writeSource mode folder source).run.run session = (.ok file, after)) :
    session.tree.entry? (location ++ [source.1.fileName]) ≠ some .folder ∧
      after.tree =
        session.tree.put (location ++ [source.1.fileName]) (.file (bytes source)) := by
  have hname := source.1.isEntryName_fileName
  obtain ⟨_, between, hwrite, h⟩ := run_bind_eq_ok.mp h
  rw [run_record_bind] at h
  cases h
  rw [run_writeFile] at hwrite
  by_cases hentry : session.tree.entry? (location ++ [source.1.fileName]) = some .folder
  · rw [hfolder.writeFile_join_of_folder hname hentry] at hwrite
    cases hwrite
  · rw [hfolder.writeFile_join hname hentry] at hwrite
    cases hwrite
    exact ⟨hentry, rfl⟩

/-- The paths at which a pass writes: a folder, and in it a file for each language. -/
def targets (folder : String) : List String :=
  folder :: Language.all.map fun language => Path.join folder language.fileName

/-- The failure is over a file or a folder that a pass writes. -/
def FailsToWrite (folder : String) (failure : Failure) : Prop :=
  ∃ path ∈ targets folder, ∃ fault, failure = .file path fault

theorem FailsToWrite.eq_file {folder : String} {failure : Failure}
    (h : FailsToWrite folder failure) : ∃ path fault, failure = .file path fault := by
  obtain ⟨path, -, fault, rfl⟩ := h
  exact ⟨path, fault, rfl⟩

/-- Only the file that is to be written can be in the way. -/
theorem failsToWrite_of_writeSource {mode : Mode} {folder : String} {source : Language × Code}
    {session after : Session} {failure : Failure}
    (h : (writeSource mode folder source).run.run session = (.error failure, after)) :
    FailsToWrite folder failure := by
  rcases run_bind_eq_error.mp h with h | ⟨_, _, -, h⟩
  · rw [run_writeFile] at h
    split at h
    · cases h
    · next fault _ =>
      cases h
      exact ⟨_, List.mem_cons_of_mem _ (List.mem_map_of_mem source.1.mem_all), fault, rfl⟩
  · rw [run_record_bind] at h
    cases h

/-! ## All sources -/

/-- The second tree is the first one with the sources as files in the folder at the location. -/
structure Placed (location : Location) (sources : List (Language × Code))
    (before after : FileTree) : Prop where
  current_eq : after.current = before.current
  file : ∀ source ∈ sources,
    after.entry? (location ++ [source.1.fileName]) = some (.file (bytes source))
  other : ∀ place, (∀ source ∈ sources, place ≠ location ++ [source.1.fileName]) →
    after.entry? place = before.entry? place

/-- The sources of different languages are all put into the folder. -/
theorem placed_of_mapM_writeSource {mode : Mode} {folder : String} {location : Location}
    {sources : List (Language × Code)} {session after : Session} {files : List GeneratedFile}
    (hfolder : session.tree.FolderAt folder location) (hnodup : (sources.map (·.1)).Nodup)
    (h : (sources.mapM (writeSource mode folder)).run.run session = (.ok files, after)) :
    Placed location sources session.tree after.tree := by
  induction sources generalizing session files with
  | nil =>
    rw [List.mapM_nil] at h
    cases h
    exact ⟨rfl, by simp, fun _ _ => rfl⟩
  | cons source rest ih =>
    rw [List.mapM_cons] at h
    obtain ⟨_, between, hsource, h⟩ := run_bind_eq_ok.mp h
    obtain ⟨_, _, hrest, h⟩ := run_bind_eq_ok.mp h
    cases h
    rw [List.map_cons, List.nodup_cons] at hnodup
    obtain ⟨hentry, htree⟩ := tree_of_writeSource hfolder hsource
    have hroot : location ++ [source.1.fileName] ≠ [] := by simp
    have hkeeps : session.tree.KeepsFolders between.tree := by
      rw [htree]
      exact FileTree.keepsFolders_put hroot fun hfolder => absurd hfolder hentry
    obtain ⟨hcurrent, hfile, hother⟩ := ih (hkeeps.folderAt hfolder) hnodup.2 hrest
    refine ⟨hcurrent.trans hkeeps.current_eq, ?_, ?_⟩
    · intro written hwritten
      rcases List.mem_cons.mp hwritten with rfl | hwritten
      · -- the sources behind it are of other languages and leave the file as it is
        rw [hother, htree, FileTree.entry?_put hroot, if_pos rfl]
        intro later hlater heq
        have hname := List.head_eq_of_cons_eq (List.append_cancel_left heq)
        exact hnodup.1 (Language.fileName_injective hname ▸ List.mem_map_of_mem hlater)
      · exact hfile written hwritten
    · intro place hplace
      rw [hother place fun later hlater => hplace later (List.mem_cons_of_mem _ hlater), htree,
        FileTree.entry?_put hroot, if_neg (hplace source List.mem_cons_self)]

theorem failsToWrite_of_mapM_writeSource {mode : Mode} {folder : String}
    {sources : List (Language × Code)} {session after : Session} {failure : Failure}
    (h : (sources.mapM (writeSource mode folder)).run.run session = (.error failure, after)) :
    FailsToWrite folder failure := by
  induction sources generalizing session with
  | nil =>
    rw [List.mapM_nil] at h
    cases h
  | cons source rest ih =>
    rw [List.mapM_cons] at h
    rcases run_bind_eq_error.mp h with h | ⟨_, _, -, h⟩
    · exact failsToWrite_of_writeSource h
    · rcases run_bind_eq_error.mp h with h | ⟨_, _, -, h⟩
      · exact ih h
      · cases h

/-! ## The folder of a pass -/

/-- The second tree is the first one with the folder at the location, made if need be, and the
sources as files in it. Nothing else has changed. -/
structure Filled (location : Location) (sources : List (Language × Code))
    (before after : FileTree) : Prop where
  current_eq : after.current = before.current
  free : before.entry? location = none ∨ before.entry? location = some .folder
  folder : after.entry? location = some .folder
  file : ∀ source ∈ sources,
    after.entry? (location ++ [source.1.fileName]) = some (.file (bytes source))
  other : ∀ place, place ≠ location →
    (∀ source ∈ sources, place ≠ location ++ [source.1.fileName]) →
    after.entry? place = before.entry? place

/-- A folder that is made directly in a folder is there, and nothing else has changed. -/
theorem folderAt_of_makeFolders {folder name : String} {location : Location}
    {session after : Session} (hfolder : session.tree.FolderAt folder location)
    (hname : Path.IsEntryName name)
    (h : (makeFolders (Path.join folder name)).run.run session = (.ok (), after)) :
    after.tree.FolderAt (Path.join folder name) (location ++ [name]) ∧
      Filled (location ++ [name]) [] session.tree after.tree := by
  have hroot : location ++ [name] ≠ [] := by simp
  rw [run_makeFolders, hfolder.makeFolders_join hname] at h
  cases hentry : session.tree.entry? (location ++ [name]) with
  | none =>
    rw [hentry] at h
    cases h
    have hput : FileTree.entry? (session.tree.put (location ++ [name]) .folder)
        (location ++ [name]) = some .folder := by
      rw [FileTree.entry?_put hroot, if_pos rfl]
    have hkeeps : session.tree.KeepsFolders (session.tree.put (location ++ [name]) .folder) :=
      FileTree.keepsFolders_put hroot fun _ => rfl
    refine ⟨⟨(hkeeps.folderAt hfolder).locate_join hname, hput⟩, hkeeps.current_eq, .inl hentry,
      hput, by simp, ?_⟩
    intro place hplace _
    rw [FileTree.entry?_put hroot, if_neg hplace]
  | some entry =>
    cases entry with
    | folder =>
      rw [hentry] at h
      cases h
      exact ⟨⟨hfolder.locate_join hname, hentry⟩, rfl, .inr hentry, hentry, by simp,
        fun _ _ _ => rfl⟩
    | file content =>
      rw [hentry] at h
      cases h

/-- Writing the sources of different languages into a folder of a folder fills it. -/
theorem filled_of_writeSources {mode : Mode} {folder name : String} {location : Location}
    {sources : List (Language × Code)} {session after : Session} {files : List GeneratedFile}
    (hfolder : session.tree.FolderAt folder location) (hname : Path.IsEntryName name)
    (hnodup : (sources.map (·.1)).Nodup)
    (h : (writeSources mode (Path.join folder name) sources).run.run session =
      (.ok files, after)) :
    Filled (location ++ [name]) sources session.tree after.tree := by
  obtain ⟨_, between, hmade, h⟩ := run_bind_eq_ok.mp h
  obtain ⟨hinner, hfilled⟩ := folderAt_of_makeFolders hfolder hname hmade
  have hplaced := placed_of_mapM_writeSource hinner hnodup h
  -- the folder itself is not one of the files in it
  have hne : ∀ source ∈ sources,
      location ++ [name] ≠ location ++ [name] ++ [source.1.fileName] := by
    intro source _ heq
    have := congrArg List.length heq
    simp at this
  refine ⟨hplaced.current_eq.trans hfilled.current_eq, hfilled.free, ?_, hplaced.file, ?_⟩
  · rw [hplaced.other _ hne]
    exact hinner.entry?_eq
  · intro place hplace hfiles
    rw [hplaced.other place hfiles, hfilled.other place hplace (by simp)]

theorem failsToWrite_of_writeSources {mode : Mode} {folder : String}
    {sources : List (Language × Code)} {session after : Session} {failure : Failure}
    (h : (writeSources mode folder sources).run.run session = (.error failure, after)) :
    FailsToWrite folder failure := by
  rcases run_bind_eq_error.mp h with h | ⟨_, _, -, h⟩
  · rw [run_makeFolders] at h
    cases houtcome : (session.tree.makeFolders folder).2 with
    | ok _ =>
      rw [houtcome] at h
      cases h
    | error fault =>
      rw [houtcome] at h
      cases h
      exact ⟨folder, List.mem_cons_self, fault, rfl⟩
  · exact failsToWrite_of_mapM_writeSource h

/-! ## Sources in all languages -/

/-- The sources are those of all languages, each once. -/
theorem sources_of_emitAll {emit : Language → Except EmissionError Code}
    {sources : List (Language × Code)} (h : emitAll emit = .ok sources) :
    sources.map (·.1) = Language.all ∧ ∀ source ∈ sources, emit source.1 = .ok source.2 := by
  have hall : ∀ {languages : List Language} {sources : List (Language × Code)},
      (languages.mapM fun language => do return (language, ← emit language)) = .ok sources →
      sources.map (·.1) = languages ∧ ∀ source ∈ sources, emit source.1 = .ok source.2 := by
    intro languages
    induction languages with
    | nil =>
      intro sources h
      cases h
      exact ⟨rfl, by simp⟩
    | cons language rest ih =>
      intro sources h
      rw [List.mapM_cons] at h
      obtain ⟨source, hsource, h⟩ := bind_eq_ok.mp h
      obtain ⟨others, hothers, h⟩ := bind_eq_ok.mp h
      obtain ⟨code, hcode, hsource⟩ := bind_eq_ok.mp hsource
      cases h
      cases hsource
      obtain ⟨hlanguages, hcodes⟩ := ih hothers
      refine ⟨by rw [List.map_cons, hlanguages], ?_⟩
      intro source hmem
      rcases List.mem_cons.mp hmem with rfl | hmem
      · exact hcode
      · exact hcodes source hmem
  exact hall h

/-- If there is no source in all languages, there is none in one. -/
theorem exists_of_emitAll_eq_error {emit : Language → Except EmissionError Code}
    {error : EmissionError} (h : emitAll emit = .error error) :
    ∃ language, emit language = .error error := by
  obtain ⟨language, -, h⟩ := exists_of_mapM_eq_error h
  rcases bind_eq_error.mp h with h | ⟨_, -, h⟩
  · exact ⟨language, h⟩
  · cases h

end Generation

end StarterCode
