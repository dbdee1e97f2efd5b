import StarterCode.Proofs.Generation.Success

/-!
# What a report says of the files

A report gives the digest and the size of each file as it was written. Nothing is read back, so the
report is right about a file as long as nothing is written over it later in the run.

About the programs it is always right, since they are written last. The stubs are written first,
under the same names in a folder of their own, and so all of them depend on one question: whether
the paths of the two folders lead to one place. If they do, each stub is replaced by a program,
which is longer, and the report is wrong about every stub (`report_describes_iff`). The two paths
need not be spelled alike for that. With two different plain names, as in the usual layout, they
never meet.
-/

set_option autoImplicit false

namespace StarterCode

/-- What the report says of the file is so: its path leads to a file of this size and digest. -/
def GeneratedFile.Describes (file : GeneratedFile) (tree : FileTree) : Prop :=
  ∃ content, tree.readBytes file.path = .ok content ∧ content.size = file.bytes ∧
    Sha256.hexDigest content = file.sha256

theorem FileTree.FolderAt.readBytes_join {tree : FileTree} {folder name : String}
    {location : Location} {content : ByteArray} (h : tree.FolderAt folder location)
    (hname : Path.IsEntryName name)
    (hentry : tree.entry? (location ++ [name]) = some (.file content)) :
    tree.readBytes (Path.join folder name) = .ok content := by
  rw [FileTree.readBytes, FileTree.find, h.locate_join hname]
  simp only [bind, Except.bind, hentry]

namespace Generation

/-- A report is right about a source if what has its name in the folder has its size and digest. -/
theorem describes_fileOf_iff {mode : Mode} {tree : FileTree} {folder : String}
    {location : Location} {source : Language × Code} {content : ByteArray}
    (hfolder : tree.FolderAt folder location)
    (hentry : tree.entry? (location ++ [source.1.fileName]) = some (.file content)) :
    (fileOf mode folder source).Describes tree ↔
      content.size = (bytes source).size ∧
        Sha256.hexDigest content = Sha256.hexDigest (bytes source) := by
  have hread := hfolder.readBytes_join source.1.isEntryName_fileName hentry
  constructor
  · rintro ⟨other, hother, hsize, hdigest⟩
    rw [fileOf, hread, Except.ok.injEq] at hother
    rw [hother]
    exact ⟨hsize, hdigest⟩
  · rintro ⟨hsize, hdigest⟩
    exact ⟨content, hread, hsize, hdigest⟩

/-! ## Where a pass has written -/

/-- A source is only written where the path leads to a folder. -/
theorem exists_folderAt_of_writeSource {mode : Mode} {folder : String} {source : Language × Code}
    {session after : Session} {file : GeneratedFile} (hne : folder ≠ "")
    (h : (writeSource mode folder source).run.run session = (.ok file, after)) :
    ∃ location, session.tree.FolderAt folder location := by
  obtain ⟨_, between, hwrite, -⟩ := run_bind_eq_ok.mp h
  rw [run_writeFile] at hwrite
  split at hwrite
  · next tree htree =>
    obtain ⟨place, hplace, -, -⟩ := FileTree.writeFile_eq_ok_iff.mp htree
    obtain ⟨location, hfolder, -⟩ :=
      FileTree.exists_folderAt_of_locate_join hne source.1.isEntryName_fileName hplace
    exact ⟨location, hfolder⟩
  · cases hwrite

/-- Whatever the path of the folder is like, a pass that succeeds leaves a folder there with the
sources in it. -/
theorem WritesAll.exists_placed {mode : Mode} {folder : String} {code : Language → Code}
    {before after : FileTree} (h : WritesAll mode folder code before after) (hne : folder ≠ "") :
    ∃ made location, before.Grows made ∧ after.FolderAt folder location ∧
      Placed location (sourcesOf code) made after := by
  obtain ⟨session, session', files, rfl, rfl, h⟩ := h
  obtain ⟨_, between, hmade, h⟩ := run_bind_eq_ok.mp h
  have hwritten := h
  obtain ⟨first, rest, hsources⟩ : ∃ first rest, sourcesOf code = first :: rest := ⟨_, _, rfl⟩
  rw [hsources, List.mapM_cons] at hwritten
  obtain ⟨_, _, hfirst, -⟩ := run_bind_eq_ok.mp hwritten
  obtain ⟨location, hfolder⟩ := exists_folderAt_of_writeSource hne hfirst
  exact ⟨between.tree, location, grows_of_run_makeFolders hmade,
    (keepsFolders_of_mapM_writeSource h).folderAt hfolder,
    placed_of_mapM_writeSource hfolder (nodup_sourcesOf code) h⟩

/-- Both passes leave their folders. What is in them depends on whether these are one. -/
theorem exists_places_of_writesAll {stubFolder programFolder : String}
    {stub program : Language → Code} {before between after : FileTree}
    (hstubFolder : stubFolder ≠ "") (hprogramFolder : programFolder ≠ "")
    (hlonger : ∀ language, (stub language).text.utf8ByteSize < (program language).text.utf8ByteSize)
    (hstubs : WritesAll .stub stubFolder stub before between)
    (hprograms : WritesAll .program programFolder program between after) :
    ∃ place place', after.FolderAt stubFolder place ∧ after.FolderAt programFolder place' ∧
      (∀ source ∈ sourcesOf program, (fileOf .program programFolder source).Describes after) ∧
      ∀ source ∈ sourcesOf stub,
        (fileOf .stub stubFolder source).Describes after ↔ place ≠ place' := by
  obtain ⟨_, place, -, hplace, hfirst⟩ := hstubs.exists_placed hstubFolder
  obtain ⟨made, place', hgrows, hplace', hsecond⟩ := hprograms.exists_placed hprogramFolder
  have hfolder : after.FolderAt stubFolder place := hprograms.keepsFolders.folderAt hplace
  refine ⟨place, place', hfolder, hplace', ?_, ?_⟩
  · intro source hsource
    exact (describes_fileOf_iff hplace' (hsecond.file source hsource)).mpr ⟨rfl, rfl⟩
  · intro source hsource
    by_cases hsame : place = place'
    · -- the program in the same language has taken the place of the stub
      subst hsame
      have hreplaced : after.entry? (place ++ [source.1.fileName]) =
          some (.file (bytes (source.1, program source.1))) :=
        hsecond.file (source.1, program source.1) (mem_sourcesOf.mpr rfl)
      rw [describes_fileOf_iff hfolder hreplaced]
      refine ⟨fun h => ?_, fun h => absurd rfl h⟩
      have hstub : source = (source.1, stub source.1) := mem_sourcesOf.mp hsource
      rw [hstub] at h
      exact absurd h.1 (hlonger source.1).ne'
    · refine iff_of_true ?_ hsame
      have hother : ∀ written ∈ sourcesOf program,
          place ++ [source.1.fileName] ≠ place' ++ [written.1.fileName] := by
        intro written _ heq
        exact hsame (List.append_inj_left' heq rfl)
      have hkept : after.entry? (place ++ [source.1.fileName]) = some (.file (bytes source)) := by
        rw [hsecond.other _ hother]
        exact hgrows.keeps _ _ (hfirst.file source hsource)
      exact (describes_fileOf_iff hfolder hkept).mpr ⟨rfl, rfl⟩

end Generation

open Generation

/-! ## The whole -/

/-- The parts of a report are those of the two passes. -/
theorem filesFor_reportOf (layout : GenerationLayout) (folder : String) (made : Making) :
    (reportOf layout folder made).filesFor .stub =
        (sourcesOf made.stub).map (fileOf .stub (Path.join folder layout.stubFolder)) ∧
      (reportOf layout folder made).filesFor .program =
        (sourcesOf made.program).map (fileOf .program (Path.join folder layout.programFolder)) :=
  ⟨rfl, rfl⟩

/-- After a generation, the folders of both passes are there. The report is right about the
programs, and about the stubs if these are two places. -/
theorem exists_places_of_generate {layout : GenerationLayout} {folder : String} {tree : FileTree}
    {report : GenerationReport} {session : Session}
    (h : generate layout folder tree = (.ok report, session)) :
    ∃ place place', session.tree.FolderAt (Path.join folder layout.stubFolder) place ∧
      session.tree.FolderAt (Path.join folder layout.programFolder) place' ∧
      (∀ file ∈ report.filesFor .program, file.Describes session.tree) ∧
      ∀ file ∈ report.filesFor .stub, file.Describes session.tree ↔ place ≠ place' := by
  obtain ⟨made, between, hmakes, hstubs, hprograms, rfl⟩ := exists_makes_of_run_eq_ok h
  obtain ⟨⟨location, hfolder⟩, -⟩ := readDocument_eq_ok hmakes.readDocument_eq
  have hproblem : made.problem = made.laidOut.problem := by
    have hparse := hmakes.problem_eq
    rw [(LaidOutProblem.fits_of_parse hmakes.laidOut_eq).1, Except.ok.injEq] at hparse
    exact hparse.symm
  have hlonger : ∀ language,
      (made.stub language).text.utf8ByteSize < (made.program language).text.utf8ByteSize := by
    intro language
    exact utf8ByteSize_text_emit_lt (hproblem ▸ hmakes.stub_eq language)
      (hmakes.program_eq language)
  obtain ⟨place, place', hplace, hplace', hprogramFiles, hstubFiles⟩ :=
    exists_places_of_writesAll (Path.join_ne_empty_of_ne_empty hfolder.ne_empty _)
      (Path.join_ne_empty_of_ne_empty hfolder.ne_empty _) hlonger hstubs hprograms
  obtain ⟨hstubPart, hprogramPart⟩ := filesFor_reportOf layout folder made
  refine ⟨place, place', hplace, hplace', ?_, ?_⟩
  · rw [hprogramPart]
    exact List.forall_mem_map.mpr hprogramFiles
  · rw [hstubPart]
    exact List.forall_mem_map.mpr hstubFiles

/-- Different names in one folder are different places. -/
theorem places_ne_of_names_ne {tree : FileTree} {folder name name' : String}
    {location place place' : Location} (hfolder : tree.FolderAt folder location)
    (hname : Path.IsEntryName name) (hname' : Path.IsEntryName name') (hne : name ≠ name')
    (hplace : tree.FolderAt (Path.join folder name) place)
    (hplace' : tree.FolderAt (Path.join folder name') place') : place ≠ place' := by
  have heq := hfolder.locate_join hname
  have heq' := hfolder.locate_join hname'
  rw [hplace.locate_eq, Except.ok.injEq] at heq
  rw [hplace'.locate_eq, Except.ok.injEq] at heq'
  rintro rfl
  rw [heq] at heq'
  exact hne (List.head_eq_of_cons_eq (List.append_cancel_left heq'))

/-- **What a report is right about.** It lists a stub and a program for each language. What it says
of the programs is so. What it says of the stubs is so if and only if the paths of the two folders
lead to different places, as they do when both are plain names and not the same. -/
theorem report_describes_iff {layout : GenerationLayout} {folder : String} {tree : FileTree}
    {report : GenerationReport} {session : Session}
    (h : generate layout folder tree = (.ok report, session)) :
    (∀ mode, (report.filesFor mode).map (·.language) = Language.all) ∧
    (∃ place place', session.tree.FolderAt (Path.join folder layout.stubFolder) place ∧
      session.tree.FolderAt (Path.join folder layout.programFolder) place' ∧
      (∀ file ∈ report.filesFor .program, file.Describes session.tree) ∧
      ∀ file ∈ report.filesFor .stub, file.Describes session.tree ↔ place ≠ place') ∧
    (Path.IsEntryName layout.stubFolder → Path.IsEntryName layout.programFolder →
      layout.stubFolder ≠ layout.programFolder →
      ∀ file ∈ report.files, file.Describes session.tree) := by
  obtain ⟨place, place', hplace, hplace', hprograms, hstubs⟩ := exists_places_of_generate h
  obtain ⟨made, between, hmakes, hwritten, hwritten', rfl⟩ := exists_makes_of_run_eq_ok h
  refine ⟨?_, ⟨place, place', hplace, hplace', hprograms, hstubs⟩, ?_⟩
  · intro mode
    cases mode <;> rfl
  · intro hname hname' hne file hfile
    obtain ⟨⟨location, hfolder⟩, -⟩ := readDocument_eq_ok hmakes.readDocument_eq
    have hfinal : session.tree.FolderAt folder location :=
      hwritten'.keepsFolders.folderAt (hwritten.keepsFolders.folderAt hfolder)
    rcases List.mem_append.mp hfile with hstub | hprogram
    · exact (hstubs file hstub).mpr
        (places_ne_of_names_ne hfinal hname hname' hne hplace hplace')
    · exact hprograms file hprogram

theorem report_describes_iff_used :
    ∃ report session, generate {} "p" usedTree = (.ok report, session) ∧
      ∀ file ∈ report.files, file.Describes session.tree := by
  obtain ⟨report, session, hgenerate⟩ := exists_generate_usedTree
  have hstubName : Path.IsEntryName "boilerplate" := by decide
  have hprogramName : Path.IsEntryName "boilerplate-full" := by decide
  exact ⟨report, session, hgenerate,
    (report_describes_iff hgenerate).2.2 hstubName hprogramName (by decide)⟩

/-- With one folder for both passes, a report is wrong. -/
theorem exists_not_describes_of_one_folder :
    ∃ report session,
      generate ⟨"Structure.md", "out", "out"⟩ "p" usedTree = (.ok report, session) ∧
        ∃ file ∈ report.files, ¬ file.Describes session.tree := by
  obtain ⟨made, hmakes⟩ := exists_makes_usedTree "out" "out"
  have hname : Path.IsEntryName "out" := by decide
  have hfree : Free ["p", "out"] usedTree := free_usedTree (.inl rfl)
  obtain ⟨session, hgenerate⟩ :=
    exists_generate_eq_ok hmakes ⟨locate_usedTree, rfl⟩ hname hname hfree hfree
  obtain ⟨place, place', hplace, hplace', -, hstubs⟩ := exists_places_of_generate hgenerate
  have hsame : place = place' :=
    Except.ok.inj (hplace.locate_eq.symm.trans hplace'.locate_eq)
  have hstub : fileOf .stub "p/out" (.javaScript, made.stub .javaScript) ∈
      (reportOf ⟨"Structure.md", "out", "out"⟩ "p" made).filesFor .stub := by
    rw [(filesFor_reportOf _ _ made).1]
    exact List.mem_map_of_mem (mem_sourcesOf.mpr rfl)
  exact ⟨_, session, hgenerate, _, (List.mem_filter.mp hstub).1,
    fun hdescribes => (hstubs _ hstub).mp hdescribes hsame⟩

end StarterCode
