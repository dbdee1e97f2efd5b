import Mathlib.Data.Set.Insert
import Mathlib.Order.BooleanAlgebra.Set
import StarterCode.Proofs.FileTree.Sameness
import StarterCode.Proofs.Generation.Success

/-!
# Generating twice

A second run behind a first one does what the first one did and changes nothing, however the first
one came out: with a report, with an error in the document, or over a file or folder that stood in
the way in the middle of a pass.

The second run does not begin where a step of the first one began but where all of it ended. So a
step has to come out the same on every later tree, as long as nothing has happened at the places
that the step itself looks at and changes. That is `Repeats`: the step changes nothing outside of
some places, and begun again on a tree that has not changed at these places it leaves that tree as
it is.

Steps with places of their own are chained by `Repeats.bind`, and both passes are such chains, the
first below the folder for stubs and the second below the folder for programs.
-/

set_option autoImplicit false

namespace StarterCode

namespace Generation

variable {α β : Type}

/-- Begun on the tree, the run changes it at no other than the places. Begun again on a tree that is
at these places as the run has left it, it comes out the same and leaves that tree as it is. -/
def Repeats (action : GenerateM α) (places : Set Location) (tree : FileTree) : Prop :=
  ∃ result events after, Yields action tree result events after ∧
    FileTree.SameOn placesᶜ tree after ∧
    ∀ later, FileTree.SameOn places after later → Yields action later result events later

/-! ## Chains -/

section Chains

variable {first : GenerateM α} {next : α → GenerateM β} {places others : Set Location}
  {tree : FileTree}

theorem Repeats.mono {action : GenerateM α} (h : Repeats action places tree)
    (hsubset : places ⊆ others) : Repeats action others tree := by
  obtain ⟨result, events, after, hyields, hsame, hagain⟩ := h
  exact ⟨result, events, after, hyields, hsame.mono (Set.compl_subset_compl.mpr hsubset),
    fun later hlater => hagain later (hlater.mono hsubset)⟩

/-- Steps with places of their own are repeated one after the other. -/
theorem Repeats.bind (h : Repeats first places tree) (hapart : places ⊆ othersᶜ)
    (hnext : ∀ a events between, Yields first tree (.ok a) events between →
      Repeats (next a) others between) :
    Repeats (first >>= next) (places ∪ others) tree := by
  obtain ⟨result, events, between, hyields, hsame, hagain⟩ := h
  have hleft : (places ∪ others)ᶜ ⊆ placesᶜ := Set.compl_subset_compl.mpr Set.subset_union_left
  have hright : (places ∪ others)ᶜ ⊆ othersᶜ := Set.compl_subset_compl.mpr Set.subset_union_right
  cases result with
  | error failure =>
    refine ⟨.error failure, events, between, hyields.bind_error, hsame.mono hleft, ?_⟩
    intro later hlater
    exact (hagain later (hlater.mono Set.subset_union_left)).bind_error
  | ok a =>
    obtain ⟨result, events', after, hyields', hsame', hagain'⟩ := hnext a events between hyields
    refine ⟨result, events ++ events', after, hyields.bind_ok hyields',
      (hsame.mono hleft).trans (hsame'.mono hright), ?_⟩
    intro later hlater
    -- what the second step has changed is of no concern to the first one
    have hfirst : FileTree.SameOn places between later :=
      (hsame'.mono hapart).trans (hlater.mono Set.subset_union_left)
    exact (hagain later hfirst).bind_ok (hagain' later (hlater.mono Set.subset_union_right))

/-- A step that neither looks at the tree nor changes it may stand in front. -/
theorem repeats_bind_of_yields {result : Except Failure α} {events : List Event}
    (hfirst : ∀ tree, Yields first tree result events tree)
    (hnext : ∀ a, result = .ok a → Repeats (next a) places tree) :
    Repeats (first >>= next) places tree := by
  cases result with
  | error failure =>
    exact ⟨.error failure, events, tree, (hfirst tree).bind_error, FileTree.SameOn.refl _ tree,
      fun later _ => (hfirst later).bind_error⟩
  | ok a =>
    obtain ⟨result, events', after, hyields, hsame, hagain⟩ := hnext a rfl
    exact ⟨result, events ++ events', after, (hfirst tree).bind_ok hyields, hsame,
      fun later hlater => (hfirst later).bind_ok (hagain later hlater)⟩

theorem repeats_pure (a : α) (tree : FileTree) : Repeats (pure a) ∅ tree :=
  ⟨.ok a, [], tree, yields_pure a tree, FileTree.SameOn.refl _ tree,
    fun later _ => yields_pure a later⟩

/-- The answer of a run may be changed behind it. -/
theorem Repeats.bind_pure (h : Repeats first places tree) (change : α → β) :
    Repeats (first >>= fun a => pure (change a)) places tree := by
  have hapart : places ⊆ (∅ : Set Location)ᶜ := fun _ _ hempty => hempty
  have hbind := h.bind hapart fun a _ between _ => repeats_pure (change a) between
  rwa [Set.union_empty] at hbind

end Chains

/-! ## A pass -/

section Passes

variable {tree : FileTree} {folder name : String} {location : Location} (mode : Mode)

/-- Writing a source again is putting the same file where it is, or failing over the same folder. -/
theorem repeats_writeSource {source : Language × Code} (hfolder : tree.FolderAt folder location) :
    Repeats (writeSource mode folder source) {location ++ [source.1.fileName]} tree := by
  have hroot : location ++ [source.1.fileName] ≠ [] := by simp
  by_cases hentry : tree.entry? (location ++ [source.1.fileName]) = some .folder
  · refine ⟨_, _, tree, yields_writeSource_of_folder mode hfolder hentry,
      FileTree.SameOn.refl _ tree, ?_⟩
    intro later hlater
    refine yields_writeSource_of_folder mode (hlater.keepsFolders.folderAt hfolder) ?_
    rw [hlater.entry?_eq _ (Set.mem_singleton _), hentry]
  · refine ⟨_, _, _, yields_writeSource mode hfolder hentry, ?_, ?_⟩
    · exact FileTree.sameOn_put hroot (fun h => absurd h hentry) (fun h => h (Set.mem_singleton _))
    · intro later hlater
      have hkeeps : tree.KeepsFolders
          (tree.put (location ++ [source.1.fileName]) (.file (bytes source))) :=
        FileTree.keepsFolders_put hroot fun h => absurd h hentry
      have hthere : later.entry? (location ++ [source.1.fileName]) ≠ some .folder := by
        rw [hlater.entry?_eq _ (Set.mem_singleton _), FileTree.entry?_put hroot, if_pos rfl]
        exact nofun
      have hyields := yields_writeSource mode
        (hlater.keepsFolders.folderAt (hkeeps.folderAt hfolder)) hthere
      rwa [hlater.put_eq _ (Set.mem_singleton _) _ (FileTree.put_put_self _ _ _)] at hyields

/-- The places of files in a folder. -/
def places (location : Location) (sources : List (Language × Code)) : Set Location :=
  {place | ∃ source ∈ sources, place = location ++ [source.1.fileName]}

theorem repeats_mapM_writeSource {sources : List (Language × Code)}
    (hfolder : tree.FolderAt folder location) (hnodup : (sources.map (·.1)).Nodup) :
    Repeats (sources.mapM (writeSource mode folder)) (places location sources) tree := by
  induction sources generalizing tree with
  | nil =>
    rw [List.mapM_nil]
    exact (repeats_pure [] tree).mono (Set.empty_subset _)
  | cons source rest ih =>
    rw [List.map_cons, List.nodup_cons] at hnodup
    -- the files of the others have other names
    have hapart : {location ++ [source.1.fileName]} ⊆ (places location rest)ᶜ := by
      rintro place rfl ⟨other, hother, heq⟩
      have hname := List.head_eq_of_cons_eq (List.append_cancel_left heq)
      exact hnodup.1 (Language.fileName_injective hname ▸ List.mem_map_of_mem hother)
    have hsubset : {location ++ [source.1.fileName]} ∪ places location rest ⊆
        places location (source :: rest) := by
      rintro place (rfl | ⟨other, hother, rfl⟩)
      · exact ⟨source, List.mem_cons_self, rfl⟩
      · exact ⟨other, List.mem_cons_of_mem _ hother, rfl⟩
    rw [List.mapM_cons]
    refine ((repeats_writeSource mode hfolder).bind hapart ?_).mono hsubset
    intro file events between hyields
    refine (ih ?_ hnodup.2).bind_pure (file :: ·)
    exact (keepsFolders_of_writeSource hyields.run_eq).folderAt hfolder

/-- Making a folder directly in a folder that is there is repeated by finding it there. -/
theorem repeats_makeFolders (hfolder : tree.FolderAt folder location)
    (hname : Path.IsEntryName name) :
    Repeats (makeFolders (Path.join folder name)) {location ++ [name]} tree := by
  have hroot : location ++ [name] ≠ [] := by simp
  cases hentry : tree.entry? (location ++ [name]) with
  | none =>
    refine ⟨_, _, _, yields_makeFolders_of_none hfolder hname hentry, ?_, ?_⟩
    · exact FileTree.sameOn_put hroot (fun _ => rfl) (fun h => h (Set.mem_singleton _))
    · intro later hlater
      have hkeeps : tree.KeepsFolders (tree.put (location ++ [name]) .folder) :=
        FileTree.keepsFolders_put hroot fun _ => rfl
      refine yields_makeFolders_of_folder
        (hlater.keepsFolders.folderAt (hkeeps.folderAt hfolder)) hname ?_
      rw [hlater.entry?_eq _ (Set.mem_singleton _), FileTree.entry?_put hroot, if_pos rfl]
  | some entry =>
    have hagain : ∀ later, FileTree.SameOn {location ++ [name]} tree later →
        later.FolderAt folder location ∧ later.entry? (location ++ [name]) = some entry := by
      intro later hlater
      exact ⟨hlater.keepsFolders.folderAt hfolder,
        (hlater.entry?_eq _ (Set.mem_singleton _)).trans hentry⟩
    cases entry with
    | folder =>
      refine ⟨_, _, _, yields_makeFolders_of_folder hfolder hname hentry,
        FileTree.SameOn.refl _ tree, ?_⟩
      intro later hlater
      exact yields_makeFolders_of_folder (hagain later hlater).1 hname (hagain later hlater).2
    | file content =>
      refine ⟨_, _, _, yields_makeFolders_of_file hfolder hname hentry,
        FileTree.SameOn.refl _ tree, ?_⟩
      intro later hlater
      exact yields_makeFolders_of_file (hagain later hlater).1 hname (hagain later hlater).2

/-- The places of a folder and of everything below it. -/
def below (location : Location) : Set Location :=
  {place | location <+: place}

theorem repeats_writeSources {sources : List (Language × Code)}
    (hfolder : tree.FolderAt folder location) (hname : Path.IsEntryName name)
    (hnodup : (sources.map (·.1)).Nodup) :
    Repeats (writeSources mode (Path.join folder name) sources) (below (location ++ [name]))
      tree := by
  have hapart : {location ++ [name]} ⊆ (places (location ++ [name]) sources)ᶜ := by
    rintro place rfl ⟨source, -, heq⟩
    have hlength := congrArg List.length heq
    simp at hlength
  have hsubset : {location ++ [name]} ∪ places (location ++ [name]) sources ⊆
      below (location ++ [name]) := by
    rintro place (rfl | ⟨source, -, rfl⟩)
    · exact List.prefix_refl _
    · exact List.prefix_append _ _
  refine ((repeats_makeFolders hfolder hname).bind hapart ?_).mono hsubset
  intro _ events between hyields
  exact repeats_mapM_writeSource mode (folderAt_of_makeFolders hfolder hname hyields.run_eq).1
    hnodup

end Passes

/-! ## Both passes -/

section Runs

variable {tree : FileTree} {folder text : String} {location : Location}
  {layout : GenerationLayout}

/-- The sources that are made are of different languages. -/
theorem nodup_of_emitAll {emit : Language → Except EmissionError Code}
    {sources : List (Language × Code)} (h : emitAll emit = .ok sources) :
    (sources.map (·.1)).Nodup := by
  rw [(sources_of_emitAll h).1]
  decide

theorem repeats_writeStubs (text : String) (hfolder : tree.FolderAt folder location)
    (hname : Path.IsEntryName layout.stubFolder) :
    Repeats (writeStubs layout folder text) (below (location ++ [layout.stubFolder])) tree := by
  refine repeats_bind_of_yields (yields_record _) fun _ _ => ?_
  refine repeats_bind_of_yields (yields_ofResult _) fun problem _ => ?_
  refine repeats_bind_of_yields (yields_ofResult _) fun sources hsources => ?_
  have hnodup := nodup_of_emitAll (mapError_eq_ok.mp hsources)
  exact (repeats_writeSources .stub hfolder hname hnodup).bind_pure fun files => (problem, files)

theorem repeats_writePrograms (text : String) (hfolder : tree.FolderAt folder location)
    (hname : Path.IsEntryName layout.programFolder) :
    Repeats (writePrograms layout folder text) (below (location ++ [layout.programFolder]))
      tree := by
  refine repeats_bind_of_yields (yields_record _) fun _ _ => ?_
  refine repeats_bind_of_yields (yields_ofResult _) fun laidOut _ => ?_
  refine repeats_bind_of_yields (yields_ofResult _) fun sources hsources => ?_
  exact repeats_writeSources .program hfolder hname (nodup_of_emitAll (mapError_eq_ok.mp hsources))

/-- Both passes together are repeated if their folders have different names. -/
theorem repeats_runOn (text : String) (hfolder : tree.FolderAt folder location)
    (hstub : Path.IsEntryName layout.stubFolder) (hprogram : Path.IsEntryName layout.programFolder)
    (hne : layout.stubFolder ≠ layout.programFolder) :
    Repeats (runOn layout folder text) (below (location ++ [layout.stubFolder]) ∪
      below (location ++ [layout.programFolder])) tree := by
  have hapart : below (location ++ [layout.stubFolder]) ⊆
      (below (location ++ [layout.programFolder]))ᶜ := by
    intro place hplace
    exact not_prefix_of_prefix hne hplace
  refine (repeats_writeStubs text hfolder hstub).bind hapart ?_
  rintro ⟨problem, stubs⟩ events between hyields
  have hbetween : between.FolderAt folder location := by
    obtain ⟨-, sources, begun, hsources, hbegun, hwritten⟩ := writeStubs_eq_ok hyields.run_eq
    obtain ⟨code, -, rfl⟩ := exists_of_emitAll_eq_ok hsources
    have hwrites : WritesAll .stub (Path.join folder layout.stubFolder) code tree between :=
      ⟨begun, _, stubs, hbegun, rfl, hwritten⟩
    exact hwrites.keepsFolders.folderAt hfolder
  have hprograms := repeats_writePrograms text hbetween hprogram
  exact hprograms.bind_pure fun programs =>
    GenerationReport.mk problem.name problem.functionName (stubs ++ programs)

end Runs

end Generation

open Generation

/-! ## The whole -/

/-- **Generating twice is generating once.** A second run behind the first one answers the same,
report or failure, tells the log the same, and leaves the tree as the first run has left it. -/
theorem generate_generate (folder : String) (tree : FileTree) :
    generate {} folder (generate {} folder tree).2.tree = generate {} folder tree := by
  cases hread : readDocument {} folder tree with
  | error failure =>
    rw [generate_eq_of_readDocument_eq_error hread]
    exact generate_eq_of_readDocument_eq_error hread
  | ok text =>
    obtain ⟨⟨location, hfolder⟩, -⟩ := readDocument_eq_ok hread
    have hstub : Path.IsEntryName "boilerplate" := by decide
    have hprogram : Path.IsEntryName "boilerplate-full" := by decide
    have hdocument : Path.IsEntryName "Structure.md" := by decide
    have hrepeats : Repeats (runOn {} folder text) (below (location ++ ["boilerplate"]) ∪
        below (location ++ ["boilerplate-full"])) tree :=
      repeats_runOn text hfolder hstub hprogram (by decide)
    obtain ⟨result, events, after, hyields, hsame, hagain⟩ := hrepeats
    have hfirst : generate {} folder tree = (result, ⟨after, events⟩) :=
      (generate_eq_of_readDocument hread).trans (hyields [])
    -- the second run finds the document of the first one
    have hafter : after.FolderAt folder location := hsame.keepsFolders.folderAt hfolder
    have hplace : location ++ ["Structure.md"] ∈ (below (location ++ ["boilerplate"]) ∪
        below (location ++ ["boilerplate-full"]))ᶜ := by
      rintro (h | h)
      · exact not_prefix_of_prefix (by decide) h (List.prefix_refl _)
      · exact not_prefix_of_prefix (by decide) h (List.prefix_refl _)
    have hfind : after.find (Path.join folder "Structure.md") =
        tree.find (Path.join folder "Structure.md") :=
      hfolder.find_join_congr hafter hdocument (hsame.entry?_eq _ hplace)
    have hisFolder : after.isFolder folder = tree.isFolder folder := by
      rw [FileTree.isFolder_iff.mpr ⟨location, hafter⟩,
        FileTree.isFolder_iff.mpr ⟨location, hfolder⟩]
    have hsame' : readDocument {} folder after = readDocument {} folder tree :=
      readDocument_congr hisFolder hfind
    have hsecond : generate {} folder after = (result, ⟨after, events⟩) :=
      (generate_eq_of_readDocument (hsame'.trans hread)).trans
        (hagain after (FileTree.SameOn.refl _ after) [])
    rw [hfirst]
    exact hsecond

end StarterCode
