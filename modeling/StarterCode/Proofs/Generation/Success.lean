import StarterCode.Proofs.FileTree.Growth
import StarterCode.Proofs.Generation.Atomicity
import StarterCode.Proofs.Generation.Course

/-!
# What a successful generation does

A run that succeeds has read the document, made a stub and a program in every language, and written
them in two passes (`exists_makes_of_run_eq_ok`). Each pass lays its folder and its files over the
tree. With the usual layout the two folders lie side by side in the problem folder, so the second
pass touches nothing of the first one, and the whole effect is one table laid over the tree
(`generate_overlays`): at its eight places is what it says, and at every other place, that of the
document and those of other files in the two folders included, is what was there before.
-/

set_option autoImplicit false

namespace StarterCode

/-! ## Reading through a folder -/

/-- What an entry of a folder holds is all that reading it depends on. -/
theorem FileTree.FolderAt.find_join_congr {tree after : FileTree} {folder name : String}
    {location : Location} (h : tree.FolderAt folder location)
    (hafter : after.FolderAt folder location) (hname : Path.IsEntryName name)
    (hentry : after.entry? (location ++ [name]) = tree.entry? (location ++ [name])) :
    after.find (Path.join folder name) = tree.find (Path.join folder name) := by
  rw [FileTree.find, FileTree.find, h.locate_join hname, hafter.locate_join hname]
  simp only [bind, Except.bind, hentry]

namespace Generation

/-- A document is read alike where the folder is there and the document is the same. -/
theorem readDocument_congr {layout : GenerationLayout} {folder : String} {tree after : FileTree}
    (hfolder : after.isFolder folder = tree.isFolder folder)
    (hfind : after.find (Path.join folder layout.document) =
      tree.find (Path.join folder layout.document)) :
    readDocument layout folder after = readDocument layout folder tree := by
  have hfile : after.isFile (Path.join folder layout.document) =
      tree.isFile (Path.join folder layout.document) := by
    rw [FileTree.isFile, hfind, FileTree.isFile]
  have htext : after.readText (Path.join folder layout.document) =
      tree.readText (Path.join folder layout.document) := by
    rw [FileTree.readText, FileTree.readBytes, hfind, FileTree.readText, FileTree.readBytes]
  rw [readDocument, readDocument, hfolder, hfile, htext]

/-! ## Sources and reports -/

/-- Code in all languages as sources. -/
def sourcesOf (code : Language → Code) : List (Language × Code) :=
  Language.all.map fun language => (language, code language)

theorem nodup_sourcesOf (code : Language → Code) : ((sourcesOf code).map (·.1)).Nodup := by
  have hlanguages : (sourcesOf code).map (·.1) = Language.all := rfl
  rw [hlanguages]
  decide

theorem mem_sourcesOf {code : Language → Code} {source : Language × Code} :
    source ∈ sourcesOf code ↔ source = (source.1, code source.1) := by
  rw [sourcesOf, List.mem_map]
  constructor
  · rintro ⟨language, -, rfl⟩
    rfl
  · intro h
    exact ⟨source.1, source.1.mem_all, h.symm⟩

/-- All sources are made when there is code in every language. -/
theorem emitAll_eq_ok {emit : Language → Except EmissionError Code} {code : Language → Code}
    (h : ∀ language, emit language = .ok (code language)) :
    emitAll emit = .ok (sourcesOf code) := by
  refine mapM_eq_ok_map fun language _ => ?_
  rw [h language]
  rfl

/-- Where all sources are made, there is code in every language. -/
theorem exists_of_emitAll_eq_ok {emit : Language → Except EmissionError Code}
    {sources : List (Language × Code)} (h : emitAll emit = .ok sources) :
    ∃ code, (∀ language, emit language = .ok (code language)) ∧ sources = sourcesOf code := by
  obtain ⟨hlanguages, hcodes⟩ := sources_of_emitAll h
  have hcode : ∀ language, ∃ code, emit language = .ok code := by
    intro language
    have hmem : language ∈ sources.map (·.1) := hlanguages ▸ language.mem_all
    obtain ⟨source, hsource, rfl⟩ := List.mem_map.mp hmem
    exact ⟨source.2, hcodes source hsource⟩
  choose code hemit using hcode
  have hall := emitAll_eq_ok hemit
  rw [h, Except.ok.injEq] at hall
  exact ⟨code, hemit, hall⟩

/-- Code in every language may be chosen where there is some. -/
theorem exists_code_of_isSome {emit : Language → Except EmissionError Code}
    (h : ∀ language, (emit language).toOption.isSome = true) :
    ∃ code : Language → Code, ∀ language, emit language = .ok (code language) := by
  choose code hcode using fun language => Option.isSome_iff_exists.mp (h language)
  exact ⟨code, fun language => eq_ok_of_toOption (hcode language)⟩

theorem eq_fileOf_of_writeSource {mode : Mode} {folder : String} {source : Language × Code}
    {session after : Session} {file : GeneratedFile}
    (h : (writeSource mode folder source).run.run session = (.ok file, after)) :
    file = fileOf mode folder source := by
  obtain ⟨_, between, -, h⟩ := run_bind_eq_ok.mp h
  rw [run_record_bind] at h
  cases h
  rfl

theorem eq_map_of_mapM_writeSource {mode : Mode} {folder : String}
    {sources : List (Language × Code)} {session after : Session} {files : List GeneratedFile}
    (h : (sources.mapM (writeSource mode folder)).run.run session = (.ok files, after)) :
    files = sources.map (fileOf mode folder) := by
  induction sources generalizing session files with
  | nil =>
    rw [List.mapM_nil] at h
    cases h
    rfl
  | cons source rest ih =>
    rw [List.mapM_cons] at h
    obtain ⟨file, between, hfile, h⟩ := run_bind_eq_ok.mp h
    obtain ⟨others, _, hothers, h⟩ := run_bind_eq_ok.mp h
    cases h
    rw [eq_fileOf_of_writeSource hfile, ih hothers, List.map_cons]

/-- A pass that writes the code of all languages into a folder turns the first tree into the
second. -/
def WritesAll (mode : Mode) (folder : String) (code : Language → Code)
    (before after : FileTree) : Prop :=
  ∃ session session' files, session.tree = before ∧ session'.tree = after ∧
    (writeSources mode folder (sourcesOf code)).run.run session = (.ok files, session')

/-! ## Folders stay -/

theorem keepsFolders_of_writeSource {mode : Mode} {folder : String} {source : Language × Code}
    {session after : Session} {file : GeneratedFile}
    (h : (writeSource mode folder source).run.run session = (.ok file, after)) :
    session.tree.KeepsFolders after.tree := by
  obtain ⟨_, between, hwrite, h⟩ := run_bind_eq_ok.mp h
  rw [run_record_bind] at h
  cases h
  rw [run_writeFile] at hwrite
  split at hwrite
  · next tree htree =>
    cases hwrite
    exact FileTree.keepsFolders_of_writeFile htree
  · cases hwrite

theorem keepsFolders_of_mapM_writeSource {mode : Mode} {folder : String}
    {sources : List (Language × Code)} {session after : Session} {files : List GeneratedFile}
    (h : (sources.mapM (writeSource mode folder)).run.run session = (.ok files, after)) :
    session.tree.KeepsFolders after.tree := by
  induction sources generalizing session files with
  | nil =>
    rw [List.mapM_nil] at h
    cases h
    exact FileTree.KeepsFolders.refl _
  | cons source rest ih =>
    rw [List.mapM_cons] at h
    obtain ⟨_, between, hsource, h⟩ := run_bind_eq_ok.mp h
    obtain ⟨_, _, hrest, h⟩ := run_bind_eq_ok.mp h
    cases h
    exact (keepsFolders_of_writeSource hsource).trans (ih hrest)

theorem grows_of_run_makeFolders {folder : String} {session after : Session}
    {result : Except Failure Unit}
    (h : (makeFolders folder).run.run session = (result, after)) :
    session.tree.Grows after.tree := by
  rw [run_makeFolders] at h
  cases h
  exact FileTree.grows_makeFolders session.tree folder

theorem WritesAll.keepsFolders {mode : Mode} {folder : String} {code : Language → Code}
    {before after : FileTree} (h : WritesAll mode folder code before after) :
    before.KeepsFolders after := by
  obtain ⟨session, session', files, rfl, rfl, h⟩ := h
  obtain ⟨_, between, hmade, h⟩ := run_bind_eq_ok.mp h
  exact (grows_of_run_makeFolders hmade).keepsFolders.trans (keepsFolders_of_mapM_writeSource h)

/-! ## Both passes -/

/-- What a run has read and made before it has written everything. -/
structure Making where
  /-- The text of the document. -/
  text : String
  /-- The problem for the stubs. -/
  problem : Problem
  /-- The problem for the programs. -/
  laidOut : LaidOutProblem
  /-- The stubs. -/
  stub : Language → Code
  /-- The programs. -/
  program : Language → Code

/-- This is what a run on the folder reads and makes. -/
structure Makes (layout : GenerationLayout) (folder : String) (tree : FileTree) (made : Making) :
    Prop where
  readDocument_eq : readDocument layout folder tree = .ok made.text
  problem_eq : Problem.parse made.text = .ok made.problem
  laidOut_eq : LaidOutProblem.parse made.text = .ok made.laidOut
  stub_eq : ∀ language, made.problem.emit language = .ok (made.stub language)
  program_eq : ∀ language, made.laidOut.emit language = .ok (made.program language)

/-- The report on a run that has written everything, the stubs before the programs. -/
def reportOf (layout : GenerationLayout) (folder : String) (made : Making) : GenerationReport where
  problemName := made.problem.name
  functionName := made.problem.functionName
  files :=
    (sourcesOf made.stub).map (fileOf .stub (Path.join folder layout.stubFolder)) ++
      (sourcesOf made.program).map (fileOf .program (Path.join folder layout.programFolder))

/-- The second pass has read the problem and made all programs before it wrote them. -/
theorem writePrograms_eq_ok {layout : GenerationLayout} {folder text : String}
    {files : List GeneratedFile} {session after : Session}
    (h : (writePrograms layout folder text).run.run session = (.ok files, after)) :
    ∃ laidOut sources between, LaidOutProblem.parse text = .ok laidOut ∧
      emitAll laidOut.emit = .ok sources ∧ between.tree = session.tree ∧
      (writeSources .program (Path.join folder layout.programFolder) sources).run.run between =
        (.ok files, after) := by
  rw [writePrograms, run_record_bind, run_ofResult_bind_eq_ok] at h
  obtain ⟨laidOut, hlaidOut, h⟩ := h
  obtain ⟨sources, hsources, h⟩ := run_ofResult_bind_eq_ok.mp h
  exact ⟨laidOut, sources, { session with log := session.log ++ [.started .program folder] },
    mapError_eq_ok.mp hlaidOut, mapError_eq_ok.mp hsources, rfl, h⟩

theorem eq_map_of_writeSources {mode : Mode} {folder : String} {sources : List (Language × Code)}
    {session after : Session} {files : List GeneratedFile}
    (h : (writeSources mode folder sources).run.run session = (.ok files, after)) :
    files = sources.map (fileOf mode folder) := by
  obtain ⟨_, between, -, h⟩ := run_bind_eq_ok.mp h
  exact eq_map_of_mapM_writeSource h

/-- **The course of a run that succeeds.** It makes everything, writes the stubs and then the
programs, and reports what it has written. -/
theorem exists_makes_of_run_eq_ok {layout : GenerationLayout} {folder : String}
    {report : GenerationReport} {session after : Session}
    (h : (run layout folder).run.run session = (.ok report, after)) :
    ∃ made between, Makes layout folder session.tree made ∧
      WritesAll .stub (Path.join folder layout.stubFolder) made.stub session.tree between ∧
      WritesAll .program (Path.join folder layout.programFolder) made.program between after.tree ∧
      report = reportOf layout folder made := by
  rw [Generation.run, run_get_bind, run_ofResult_bind_eq_ok] at h
  obtain ⟨text, hread, h⟩ := h
  obtain ⟨⟨problem, stubs⟩, between, hstubs, h⟩ := run_bind_eq_ok.mp h
  obtain ⟨programs, last, hprograms, h⟩ := run_bind_eq_ok.mp h
  cases h
  obtain ⟨hproblem, stubSources, begun, hstubSources, hbegun, hstubsWritten⟩ :=
    writeStubs_eq_ok hstubs
  obtain ⟨laidOut, programSources, begun', hlaidOut, hprogramSources, hbegun', hprogramsWritten⟩ :=
    writePrograms_eq_ok hprograms
  obtain ⟨stub, hstub, rfl⟩ := exists_of_emitAll_eq_ok hstubSources
  obtain ⟨program, hprogram, rfl⟩ := exists_of_emitAll_eq_ok hprogramSources
  refine ⟨⟨text, problem, laidOut, stub, program⟩, between.tree,
    ⟨hread, hproblem, hlaidOut, hstub, hprogram⟩, ⟨begun, between, stubs, hbegun, rfl,
      hstubsWritten⟩, ⟨begun', after, programs, hbegun', rfl, hprogramsWritten⟩, ?_⟩
  rw [reportOf, eq_map_of_writeSources hstubsWritten, eq_map_of_writeSources hprogramsWritten]

/-! ## The table of a pass -/

/-- What a pass that writes into the folder at the location puts where. -/
def outputs (location : Location) (code : Language → Code) : List (Location × Entry) :=
  (location, .folder) :: (sourcesOf code).map fun source =>
    (location ++ [source.1.fileName], .file (bytes source))

/-- A folder that is filled is the table of the pass laid over the tree. -/
theorem Filled.entry?_eq_lookup {location : Location} {code : Language → Code}
    {before after : FileTree} (h : Filled location (sourcesOf code) before after)
    (place : Location) :
    after.entry? place = ((outputs location code).lookup place).or (before.entry? place) := by
  rw [outputs, List.lookup_cons]
  by_cases hfolder : place = location
  · subst hfolder
    rw [beq_self_eq_true, Option.some_or, h.folder]
  · rw [beq_eq_false_iff_ne.mpr hfolder]
    by_cases hfile : ∃ language : Language, place = location ++ [language.fileName]
    · obtain ⟨language, rfl⟩ := hfile
      rw [h.file (language, code language) (mem_sourcesOf.mpr rfl)]
      cases language <;> simp [sourcesOf, Language.all, List.lookup_cons, Language.fileName,
        Language.extension]
    · have hnone : ((sourcesOf code).map fun source => (location ++ [source.1.fileName],
          Entry.file (bytes source))).lookup place = none := by
        rw [List.lookup_eq_none_iff]
        intro entry hentry
        obtain ⟨source, -, rfl⟩ := List.mem_map.mp hentry
        exact bne_iff_ne.mpr fun heq => hfile ⟨source.1, heq⟩
      rw [hnone, Option.none_or, h.other place hfolder fun source _ heq => hfile ⟨source.1, heq⟩]

/-- A pass that writes directly into the problem folder fills a folder in it. -/
theorem WritesAll.filled {mode : Mode} {folder name : String} {location : Location}
    {code : Language → Code} {before after : FileTree}
    (h : WritesAll mode (Path.join folder name) code before after)
    (hfolder : before.FolderAt folder location) (hname : Path.IsEntryName name) :
    Filled (location ++ [name]) (sourcesOf code) before after := by
  obtain ⟨session, session', files, rfl, rfl, h⟩ := h
  exact filled_of_writeSources hfolder hname (nodup_sourcesOf code) h

/-- The table says nothing about places outside of its folder. -/
theorem lookup_outputs_eq_none {location place : Location} (h : ¬ location <+: place)
    (code : Language → Code) : (outputs location code).lookup place = none := by
  rw [outputs, List.lookup_eq_none_iff]
  intro entry hentry
  rcases List.mem_cons.mp hentry with rfl | hentry
  · rw [bne_iff_ne]
    rintro rfl
    exact h (List.prefix_refl _)
  · obtain ⟨source, -, rfl⟩ := List.mem_map.mp hentry
    rw [bne_iff_ne]
    rintro rfl
    exact h (List.prefix_append _ _)

/-- No place is in two folders that lie side by side. -/
theorem not_prefix_of_prefix {location place : Location} {name other : String}
    (hne : name ≠ other) (h : location ++ [name] <+: place) : ¬ location ++ [other] <+: place := by
  intro h'
  have hlength : (location ++ [name]).length = (location ++ [other]).length := by simp
  have heq := (List.prefix_of_prefix_length_le h h' hlength.le).eq_of_length hlength
  exact hne (List.head_eq_of_cons_eq (List.append_cancel_left heq))

/-! ## Where nothing is in the way -/

section Free

variable {tree : FileTree} {folder name text : String} {location : Location}

/-- A pass may write into the folder at the location: no file has its name, and no folder has the
name of one of the files. -/
structure Free (location : Location) (tree : FileTree) : Prop where
  folder : tree.entry? location = none ∨ tree.entry? location = some .folder
  file : ∀ language : Language, tree.entry? (location ++ [language.fileName]) ≠ some .folder

theorem exists_yields_mapM_writeSource (mode : Mode) {sources : List (Language × Code)}
    (hfolder : tree.FolderAt folder location) (hnodup : (sources.map (·.1)).Nodup)
    (hfree : ∀ source ∈ sources, tree.entry? (location ++ [source.1.fileName]) ≠ some .folder) :
    ∃ events after, Yields (sources.mapM (writeSource mode folder)) tree
      (.ok (sources.map (fileOf mode folder))) events after := by
  induction sources generalizing tree with
  | nil =>
    rw [List.mapM_nil]
    exact ⟨[], tree, yields_pure [] tree⟩
  | cons source rest ih =>
    rw [List.map_cons, List.nodup_cons] at hnodup
    have hroot : location ++ [source.1.fileName] ≠ [] := by simp
    have hhead := hfree source List.mem_cons_self
    have hkeeps : tree.KeepsFolders
        (tree.put (location ++ [source.1.fileName]) (.file (bytes source))) :=
      FileTree.keepsFolders_put hroot fun h => absurd h hhead
    have hrest : ∀ other ∈ rest, FileTree.entry? (tree.put (location ++ [source.1.fileName])
        (.file (bytes source))) (location ++ [other.1.fileName]) ≠ some .folder := by
      intro other hother
      rw [FileTree.entry?_put hroot]
      split
      · exact nofun
      · exact hfree other (List.mem_cons_of_mem _ hother)
    obtain ⟨events, after, hyields⟩ := ih (hkeeps.folderAt hfolder) hnodup.2 hrest
    rw [List.mapM_cons]
    exact ⟨_, after, (yields_writeSource mode hfolder hhead).bind_ok
      (hyields.bind_ok (yields_pure _ after))⟩

theorem exists_yields_writeSources (mode : Mode) (code : Language → Code)
    (hfolder : tree.FolderAt folder location) (hname : Path.IsEntryName name)
    (hfree : Free (location ++ [name]) tree) :
    ∃ events after, Yields (writeSources mode (Path.join folder name) (sourcesOf code)) tree
      (.ok ((sourcesOf code).map (fileOf mode (Path.join folder name)))) events after := by
  obtain ⟨made, hmade⟩ :
      ∃ made, Yields (makeFolders (Path.join folder name)) tree (.ok ()) [] made := by
    rcases hfree.folder with hnone | hthere
    · exact ⟨_, yields_makeFolders_of_none hfolder hname hnone⟩
    · exact ⟨_, yields_makeFolders_of_folder hfolder hname hthere⟩
  obtain ⟨hinner, hfilled⟩ := folderAt_of_makeFolders hfolder hname hmade.run_eq
  have hfiles : ∀ source ∈ sourcesOf code,
      made.entry? (location ++ [name] ++ [source.1.fileName]) ≠ some .folder := by
    intro source _
    rw [hfilled.other _ (by simp) (by simp)]
    exact hfree.file source.1
  obtain ⟨events, after, hyields⟩ :=
    exists_yields_mapM_writeSource mode hinner (nodup_sourcesOf code) hfiles
  exact ⟨_, after, hmade.bind_ok hyields⟩

theorem yields_writeStubs (layout : GenerationLayout) {problem : Problem}
    {stub : Language → Code} {files : List GeneratedFile} {events : List Event} {after : FileTree}
    (hproblem : Problem.parse text = .ok problem)
    (hstub : ∀ language, problem.emit language = .ok (stub language))
    (h : Yields (writeSources .stub (Path.join folder layout.stubFolder) (sourcesOf stub)) tree
      (.ok files) events after) :
    ∃ events, Yields (writeStubs layout folder text) tree (.ok (problem, files)) events after := by
  have hparse : Failure.ofParse (Problem.parse text) = .ok problem := mapError_eq_ok.mpr hproblem
  have hemit : Failure.ofEmission (emitAll problem.emit) = .ok (sourcesOf stub) :=
    mapError_eq_ok.mpr (emitAll_eq_ok hstub)
  exact ⟨_, (yields_record _ tree).bind_ok ((yields_ofResult_of_eq_ok hparse tree).bind_ok
    ((yields_ofResult_of_eq_ok hemit tree).bind_ok
      (h.bind_ok (yields_pure (problem, files) after))))⟩

theorem yields_writePrograms (layout : GenerationLayout) {laidOut : LaidOutProblem}
    {program : Language → Code} {files : List GeneratedFile} {events : List Event}
    {after : FileTree} (hlaidOut : LaidOutProblem.parse text = .ok laidOut)
    (hprogram : ∀ language, laidOut.emit language = .ok (program language))
    (h : Yields (writeSources .program (Path.join folder layout.programFolder)
      (sourcesOf program)) tree (.ok files) events after) :
    ∃ events, Yields (writePrograms layout folder text) tree (.ok files) events after := by
  have hparse : Failure.ofParse (LaidOutProblem.parse text) = .ok laidOut :=
    mapError_eq_ok.mpr hlaidOut
  have hemit : Failure.ofEmission (emitAll laidOut.emit) = .ok (sourcesOf program) :=
    mapError_eq_ok.mpr (emitAll_eq_ok hprogram)
  exact ⟨_, (yields_record _ tree).bind_ok ((yields_ofResult_of_eq_ok hparse tree).bind_ok
    ((yields_ofResult_of_eq_ok hemit tree).bind_ok h))⟩

/-- **When a generation succeeds.** Where everything can be made and nothing is in the way, it does,
also when both passes write into one folder. -/
theorem exists_generate_eq_ok {layout : GenerationLayout} {made : Making}
    (hmakes : Makes layout folder tree made) (hfolder : tree.FolderAt folder location)
    (hstubName : Path.IsEntryName layout.stubFolder)
    (hprogramName : Path.IsEntryName layout.programFolder)
    (hstub : Free (location ++ [layout.stubFolder]) tree)
    (hprogram : Free (location ++ [layout.programFolder]) tree) :
    ∃ session, generate layout folder tree = (.ok (reportOf layout folder made), session) := by
  obtain ⟨events, between, hstubs⟩ := exists_yields_writeSources .stub made.stub hfolder hstubName
    hstub
  have hwrites : WritesAll .stub (Path.join folder layout.stubFolder) made.stub tree between :=
    ⟨_, _, _, rfl, rfl, hstubs.run_eq⟩
  have hbetween : between.FolderAt folder location := hwrites.keepsFolders.folderAt hfolder
  have hfilled := hwrites.filled hfolder hstubName
  have hfree : Free (location ++ [layout.programFolder]) between := by
    by_cases hsame : layout.programFolder = layout.stubFolder
    · -- the folder is there now, and what has the names of files are files
      rw [hsame]
      refine ⟨.inr hfilled.folder, fun language => ?_⟩
      rw [hfilled.file (language, made.stub language) (mem_sourcesOf.mpr rfl)]
      exact nofun
    · -- what the first pass writes does not stand in the way of the second one
      refine ⟨?_, fun language => ?_⟩
      · rw [hfilled.entry?_eq hsame []]
        exact hprogram.folder
      · rw [List.append_assoc, List.singleton_append, hfilled.entry?_eq hsame _]
        have hfile := hprogram.file language
        rwa [List.append_assoc, List.singleton_append] at hfile
  obtain ⟨events', after, hprograms⟩ :=
    exists_yields_writeSources .program made.program hbetween hprogramName hfree
  obtain ⟨_, hfirst⟩ := yields_writeStubs layout hmakes.problem_eq hmakes.stub_eq hstubs
  obtain ⟨_, hsecond⟩ := yields_writePrograms layout hmakes.laidOut_eq hmakes.program_eq hprograms
  have hrun : Yields (runOn layout folder made.text) tree (.ok (reportOf layout folder made)) _
      after := hfirst.bind_ok (hsecond.bind_ok (yields_pure _ after))
  exact ⟨_, (generate_eq_of_readDocument hmakes.readDocument_eq).trans hrun.run_eq⟩

end Free

end Generation

open Generation

/-! ## The whole -/

/-- **What a successful generation does.** It reads the document, makes stub and program in every
language, and lays them over the tree in two folders. At every place that the table does not name,
that of the document among them, is what was there before. The report lists the six files. -/
theorem generate_overlays {folder : String} {tree : FileTree} {report : GenerationReport}
    {session : Session} (h : generate {} folder tree = (.ok report, session)) :
    ∃ made location, Makes {} folder tree made ∧ tree.FolderAt folder location ∧
      tree.readText (Path.join folder "Structure.md") = .ok made.text ∧
      session.tree.current = tree.current ∧
      (∀ place, session.tree.entry? place =
        ((outputs (location ++ ["boilerplate"]) made.stub ++
          outputs (location ++ ["boilerplate-full"]) made.program).lookup place).or
            (tree.entry? place)) ∧
      session.tree.readText (Path.join folder "Structure.md") = .ok made.text ∧
      report = reportOf {} folder made ∧
      report.files.map (·.path) = ["boilerplate", "boilerplate-full"].flatMap fun name =>
        ["function.cpp", "function.js", "function.rs"].map (Path.join (Path.join folder name)) := by
  obtain ⟨made, between, hmakes, hstubs, hprograms, rfl⟩ := exists_makes_of_run_eq_ok h
  obtain ⟨⟨location, hfolder⟩, htext⟩ := readDocument_eq_ok hmakes.readDocument_eq
  have hstubName : Path.IsEntryName "boilerplate" := by decide
  have hprogramName : Path.IsEntryName "boilerplate-full" := by decide
  have hdocumentName : Path.IsEntryName "Structure.md" := by decide
  have hbetween : between.FolderAt folder location := hstubs.keepsFolders.folderAt hfolder
  have hfinal : session.tree.FolderAt folder location := hprograms.keepsFolders.folderAt hbetween
  have hfirst := hstubs.filled hfolder hstubName
  have hsecond := hprograms.filled hbetween hprogramName
  have hlaid : ∀ place, session.tree.entry? place =
      ((outputs (location ++ ["boilerplate"]) made.stub ++
        outputs (location ++ ["boilerplate-full"]) made.program).lookup place).or
          (tree.entry? place) := by
    intro place
    rw [hsecond.entry?_eq_lookup, hfirst.entry?_eq_lookup, List.lookup_append]
    by_cases hplace : location ++ ["boilerplate"] <+: place
    · have hother : ¬ location ++ ["boilerplate-full"] <+: place :=
        not_prefix_of_prefix (by decide) hplace
      rw [lookup_outputs_eq_none hother, Option.none_or, Option.or_none]
    · rw [lookup_outputs_eq_none hplace, Option.none_or, Option.none_or]
  refine ⟨made, location, hmakes, hfolder, htext, ?_, hlaid, ?_, rfl, rfl⟩
  · rw [hsecond.current_eq, hfirst.current_eq]
  · have hentry : session.tree.entry? (location ++ ["Structure.md"]) =
        tree.entry? (location ++ ["Structure.md"]) := by
      rw [hlaid, List.lookup_append, lookup_outputs_eq_none, lookup_outputs_eq_none]
      · rfl
      · exact not_prefix_of_prefix (by decide) (List.prefix_refl _)
      · exact not_prefix_of_prefix (by decide) (List.prefix_refl _)
    have hfind := hfolder.find_join_congr hfinal hdocumentName hentry
    rw [FileTree.readText, FileTree.readBytes, hfind]
    exact htext

/-- A folder in which stubs have been made before, with a long file where the first stub goes and a
file of somebody else. -/
def usedTree : FileTree where
  entries := [(["p"], .folder),
    (["p", "Structure.md"], .file sumDocument.toUTF8), (["p", "boilerplate"], .folder),
    (["p", "boilerplate", "function.cpp"], .file (String.join (List.replicate 99 "// ")).toUTF8),
    (["p", "boilerplate", "notes.txt"], .file "mine".toUTF8)]
  current := []

theorem locate_usedTree : usedTree.locate "p" = .ok ["p"] :=
  eq_ok_of_toOption (by decide +kernel)

theorem readDocument_usedTree {layout : GenerationLayout} (h : layout.document = "Structure.md") :
    readDocument layout "p" usedTree = .ok sumDocument := by
  have hread : readDocument {} "p" usedTree = .ok sumDocument :=
    eq_ok_of_toOption (by decide +kernel)
  rw [readDocument] at hread ⊢
  rw [h]
  exact hread

theorem problem_parse_sumDocument : Problem.parse sumDocument = .ok sumProblem.problem :=
  (LaidOutProblem.fits_of_parse parse_sumDocument).1

/-- Everything can be made in that folder, wherever it is to be written. -/
theorem exists_makes_usedTree (stubFolder programFolder : String) :
    ∃ made, Makes ⟨"Structure.md", stubFolder, programFolder⟩ "p" usedTree made := by
  have hstubs : ∀ language, (sumProblem.problem.emit language).toOption.isSome = true := by
    intro language
    cases language <;> decide +kernel
  have hprograms : ∀ language, (sumProblem.emit language).toOption.isSome = true := by
    intro language
    cases language <;> decide +kernel
  obtain ⟨stub, hstub⟩ := exists_code_of_isSome hstubs
  obtain ⟨program, hprogram⟩ := exists_code_of_isSome hprograms
  exact ⟨⟨sumDocument, sumProblem.problem, sumProblem, stub, program⟩, readDocument_usedTree rfl,
    problem_parse_sumDocument, parse_sumDocument, hstub, hprogram⟩

/-- There is no folder two levels below the problem folder. -/
theorem length_le_of_folder_usedTree {place : Location}
    (h : usedTree.entry? place = some .folder) : place.length ≤ 2 := by
  cases place with
  | nil => exact Nat.zero_le _
  | cons name rest =>
    have hmem : (name :: rest, Entry.folder) ∈ usedTree.entries := by
      obtain ⟨before, after, hentries, -⟩ := List.lookup_eq_some_iff.mp h
      rw [hentries]
      exact List.mem_append_right _ List.mem_cons_self
    have hfolders : name :: rest = ["p"] ∨ name :: rest = ["p", "boilerplate"] := by
      simpa [usedTree] using hmem
    rcases hfolders with heq | heq
    · rw [heq]
      decide
    · rw [heq]
      decide

theorem free_usedTree {name : String} (h : usedTree.entry? ["p", name] = none ∨
    usedTree.entry? ["p", name] = some .folder) : Free ["p", name] usedTree := by
  refine ⟨h, fun language hfolder => ?_⟩
  have hlength := length_le_of_folder_usedTree hfolder
  simp at hlength

/-- Generating in that folder succeeds. -/
theorem exists_generate_usedTree :
    ∃ report session, generate {} "p" usedTree = (.ok report, session) := by
  obtain ⟨made, hmakes⟩ := exists_makes_usedTree "boilerplate" "boilerplate-full"
  have hfolder : usedTree.FolderAt "p" ["p"] := ⟨locate_usedTree, rfl⟩
  obtain ⟨session, hgenerate⟩ := exists_generate_eq_ok hmakes hfolder (by decide) (by decide)
    (free_usedTree (.inr rfl)) (free_usedTree (.inl rfl))
  exact ⟨_, session, hgenerate⟩

theorem generate_overlays_used :
    ∃ report session, generate {} "p" usedTree = (.ok report, session) ∧
      report.files.map (·.path) = ["p/boilerplate/function.cpp", "p/boilerplate/function.js",
        "p/boilerplate/function.rs", "p/boilerplate-full/function.cpp",
        "p/boilerplate-full/function.js", "p/boilerplate-full/function.rs"] ∧
      session.tree.entry? ["p", "boilerplate", "notes.txt"] = some (.file "mine".toUTF8) ∧
      session.tree.entry? ["p", "boilerplate", "function.cpp"] = some (.file (Code.text
        ["// Sum", "#include <vector>", "", "int sum(std::vector<int>& xs) \x7b",
          "    // Implementation goes here", "    return \x7b\x7d;", "\x7d"]).toUTF8) := by
  obtain ⟨report, session, hgenerate⟩ := exists_generate_usedTree
  obtain ⟨made, location, hmakes, hfolder, htext, -, hlaid, -, -, hpaths⟩ :=
    generate_overlays hgenerate
  have hlocation : location = ["p"] := by
    have hlocate := hfolder.locate_eq
    rw [locate_usedTree, Except.ok.injEq] at hlocate
    exact hlocate.symm
  subst hlocation
  -- the first stub that is made is that of the document
  have hproblem : made.problem = sumProblem.problem := by
    have hread : made.text = sumDocument := by
      have hmade := hmakes.readDocument_eq
      rw [readDocument_usedTree rfl, Except.ok.injEq] at hmade
      exact hmade.symm
    have hparse := hmakes.problem_eq
    rw [hread, problem_parse_sumDocument, Except.ok.injEq] at hparse
    exact hparse.symm
  have hcode : sumProblem.problem.emit .cpp = .ok ["// Sum", "#include <vector>", "",
      "int sum(std::vector<int>& xs) \x7b", "    // Implementation goes here",
      "    return \x7b\x7d;", "\x7d"] :=
    eq_ok_of_toOption (by decide +kernel)
  have hstub := hmakes.stub_eq .cpp
  rw [hproblem, hcode, Except.ok.injEq] at hstub
  refine ⟨report, session, hgenerate, ?_, ?_, ?_⟩
  · rw [hpaths]
    decide
  · rw [hlaid]
    simp [outputs, sourcesOf, Language.all, List.lookup_cons, Language.fileName,
      Language.extension, usedTree, FileTree.entry?]
  · rw [hlaid, hstub]
    simp [outputs, sourcesOf, Language.all, List.lookup_cons, Language.fileName,
      Language.extension, bytes]

end StarterCode
