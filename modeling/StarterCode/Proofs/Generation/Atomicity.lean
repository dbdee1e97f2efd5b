import StarterCode.Proofs.Emission.Agreement
import StarterCode.Proofs.Generation.Pass

/-!
# What a failed generation leaves behind

A run that fails because something is missing or because a language cannot express the problem has
changed nothing. A run that fails over the document has changed nothing either, or it has failed in
the second pass, and then exactly the stubs are there.

Each pass makes all its sources before it writes anything, so it remains to see that the second pass
cannot fail over a language. It reads the same problem as the first one, all of whose stubs have
been made, and a program fails only where the stub does.
-/

set_option autoImplicit false

namespace StarterCode

open Generation

/-! ## The parts of a run -/

/-- A document that is read is in a folder. -/
theorem Generation.readDocument_eq_ok {layout : GenerationLayout} {folder text : String}
    {tree : FileTree} (h : readDocument layout folder tree = .ok text) :
    (∃ location, tree.FolderAt folder location) ∧
      tree.readText (Path.join folder layout.document) = .ok text := by
  unfold readDocument at h
  cases hfolder : tree.isFolder folder with
  | false => simp [hfolder] at h
  | true =>
    refine ⟨FileTree.isFolder_iff.mp hfolder, ?_⟩
    cases hfile : tree.isFile (Path.join folder layout.document) with
    | false => simp [hfolder, hfile] at h
    | true =>
      cases htext : tree.readText (Path.join folder layout.document) with
      | error fault => simp [hfolder, hfile, htext] at h
      | ok read =>
        simp only [hfolder, hfile, htext, Bool.not_true, if_neg Bool.false_ne_true] at h
        rw [Except.ok.inj h]

/-- The first pass has read the problem and made all stubs before it wrote them. -/
theorem Generation.writeStubs_eq_ok {layout : GenerationLayout} {folder text : String}
    {problem : Problem} {files : List GeneratedFile} {session after : Session}
    (h : (writeStubs layout folder text).run.run session = (.ok (problem, files), after)) :
    Problem.parse text = .ok problem ∧ ∃ sources between, emitAll problem.emit = .ok sources ∧
      between.tree = session.tree ∧
      (writeSources .stub (Path.join folder layout.stubFolder) sources).run.run between =
        (.ok files, after) := by
  rw [writeStubs, run_record_bind, run_ofResult_bind_eq_ok] at h
  obtain ⟨_, hproblem, h⟩ := h
  obtain ⟨sources, hsources, h⟩ := run_ofResult_bind_eq_ok.mp h
  obtain ⟨_, _, hwrite, h⟩ := run_bind_eq_ok.mp h
  cases h
  exact ⟨mapError_eq_ok.mp hproblem, sources,
    { session with log := session.log ++ [.started .stub folder] }, mapError_eq_ok.mp hsources, rfl,
    hwrite⟩

/-- If the first pass fails otherwise than over a file that it writes, it has written nothing, and
it has failed to read the problem or to make a stub. -/
theorem Generation.writeStubs_eq_error {layout : GenerationLayout} {folder text : String}
    {failure : Failure} {session after : Session}
    (h : (writeStubs layout folder text).run.run session = (.error failure, after)) :
    FailsToWrite (Path.join folder layout.stubFolder) failure ∨
      after.tree = session.tree ∧
        ((∃ error, failure = .parse error ∧ Problem.parse text = .error error) ∨
          ∃ problem error, failure = .emission error ∧ Problem.parse text = .ok problem ∧
            emitAll problem.emit = .error error) := by
  rw [writeStubs, run_record_bind, run_ofResult_bind_eq_error] at h
  rcases h with ⟨hparse, rfl⟩ | ⟨problem, hproblem, h⟩
  · obtain ⟨error, herror, rfl⟩ := mapError_eq_error.mp hparse
    exact .inr ⟨rfl, .inl ⟨error, rfl, herror⟩⟩
  rcases run_ofResult_bind_eq_error.mp h with ⟨hemit, rfl⟩ | ⟨_, -, h⟩
  · obtain ⟨error, herror, rfl⟩ := mapError_eq_error.mp hemit
    exact .inr ⟨rfl, .inr ⟨problem, error, rfl, mapError_eq_ok.mp hproblem, herror⟩⟩
  rcases run_bind_eq_error.mp h with h | ⟨_, _, -, h⟩
  · exact .inl (failsToWrite_of_writeSources h)
  · cases h

/-- If the second pass fails otherwise than over a file that it writes, it has written nothing, and
it has failed to read the problem or to make a program. -/
theorem Generation.writePrograms_eq_error {layout : GenerationLayout} {folder text : String}
    {failure : Failure} {session after : Session}
    (h : (writePrograms layout folder text).run.run session = (.error failure, after)) :
    FailsToWrite (Path.join folder layout.programFolder) failure ∨
      after.tree = session.tree ∧
        ((∃ error, failure = .parse error ∧ LaidOutProblem.parse text = .error error) ∨
          ∃ laidOut error, failure = .emission error ∧ LaidOutProblem.parse text = .ok laidOut ∧
            emitAll laidOut.emit = .error error) := by
  rw [writePrograms, run_record_bind, run_ofResult_bind_eq_error] at h
  rcases h with ⟨hparse, rfl⟩ | ⟨laidOut, hlaidOut, h⟩
  · obtain ⟨error, herror, rfl⟩ := mapError_eq_error.mp hparse
    exact .inr ⟨rfl, .inl ⟨error, rfl, herror⟩⟩
  rcases run_ofResult_bind_eq_error.mp h with ⟨hemit, rfl⟩ | ⟨_, -, h⟩
  · obtain ⟨error, herror, rfl⟩ := mapError_eq_error.mp hemit
    exact .inr ⟨rfl, .inr ⟨laidOut, error, rfl, mapError_eq_ok.mp hlaidOut, herror⟩⟩
  · exact .inl (failsToWrite_of_writeSources h)

/-- A run fails over the document, in the first pass, or in the second pass behind a first one that
has succeeded. -/
theorem Generation.run_eq_error_iff {layout : GenerationLayout} {folder : String}
    {failure : Failure} {session after : Session} :
    (run layout folder).run.run session = (.error failure, after) ↔
      (readDocument layout folder session.tree = .error failure ∧ after = session) ∨
      ∃ text, readDocument layout folder session.tree = .ok text ∧
        ((writeStubs layout folder text).run.run session = (.error failure, after) ∨
          ∃ stubs between, (writeStubs layout folder text).run.run session = (.ok stubs, between) ∧
            (writePrograms layout folder text).run.run between = (.error failure, after)) := by
  rw [Generation.run, run_get_bind, run_ofResult_bind_eq_error]
  refine or_congr_right (exists_congr fun text => and_congr_right fun _ => ?_)
  rw [run_bind_eq_error]
  refine or_congr_right (exists_congr fun stubs => exists_congr fun between =>
    and_congr_right fun _ => ?_)
  -- behind the second pass nothing fails
  constructor
  · intro h
    rcases run_bind_eq_error.mp h with h | ⟨_, _, -, h⟩
    · exact h
    · cases h
  · intro h
    exact run_bind_eq_error.mpr (.inl h)

/-- Where all stubs of a document have been made, all programs can be made. -/
theorem Generation.emitAll_ne_error {text : String} {problem : Problem} {laidOut : LaidOutProblem}
    {sources : List (Language × Code)} (hproblem : Problem.parse text = .ok problem)
    (hsources : emitAll problem.emit = .ok sources)
    (hlaidOut : LaidOutProblem.parse text = .ok laidOut) (error : EmissionError) :
    emitAll laidOut.emit ≠ .error error := by
  intro herror
  obtain ⟨language, hlanguage⟩ := exists_of_emitAll_eq_error herror
  obtain ⟨hsame, hfits⟩ := LaidOutProblem.fits_of_parse hlaidOut
  rw [hproblem, Except.ok.injEq] at hsame
  rw [LaidOutProblem.emit_eq_error hfits, ← Problem.emit_eq_error, ← hsame] at hlanguage
  -- but the stub in that language is one of the sources
  obtain ⟨hlanguages, hcodes⟩ := sources_of_emitAll hsources
  have hmem : language ∈ sources.map (·.1) := hlanguages ▸ language.mem_all
  obtain ⟨source, hsource, rfl⟩ := List.mem_map.mp hmem
  rw [hcodes source hsource] at hlanguage
  cases hlanguage

/-! ## The whole -/

/-- The second tree is the first one with the stubs of the problem in the folder, and nothing else,
least of all in the folder for programs. -/
def StubsOnly (folder : String) (before after : FileTree) : Prop :=
  ∃ location text problem sources,
    before.FolderAt folder location ∧
    before.readText (Path.join folder "Structure.md") = .ok text ∧
    Problem.parse text = .ok problem ∧
    emitAll problem.emit = .ok sources ∧
    Filled (location ++ ["boilerplate"]) sources before after ∧
    ∀ rest, after.entry? (location ++ "boilerplate-full" :: rest) =
      before.entry? (location ++ "boilerplate-full" :: rest)

/-- What fills one folder leaves the others next to it as they are. -/
theorem Generation.Filled.entry?_eq {location : Location} {name other : String}
    {sources : List (Language × Code)} {before after : FileTree}
    (h : Filled (location ++ [name]) sources before after) (hne : other ≠ name)
    (rest : List String) : after.entry? (location ++ other :: rest) =
      before.entry? (location ++ other :: rest) := by
  refine h.other _ ?_ ?_
  · intro heq
    exact hne (List.head_eq_of_cons_eq (List.append_cancel_left heq))
  · intro source _ heq
    rw [List.append_assoc, List.singleton_append] at heq
    exact hne (List.head_eq_of_cons_eq (List.append_cancel_left heq))

/-- A run that fails otherwise than over a file has changed nothing, or it has failed over the
document and left the stubs. -/
theorem Generation.run_eq_error {folder : String} {tree : FileTree} {failure : Failure}
    {session : Session}
    (h : (run {} folder).run.run ⟨tree, []⟩ = (.error failure, session)) :
    (∃ path fault, failure = .file path fault) ∨ session.tree = tree ∨
      (∃ error, failure = .parse error) ∧ StubsOnly folder tree session.tree := by
  rcases run_eq_error_iff.mp h with
    ⟨-, rfl⟩ | ⟨text, hread, h | ⟨⟨problem, stubs⟩, between, hstubs, h⟩⟩
  · exact .inr (.inl rfl)
  · rcases writeStubs_eq_error h with hfile | ⟨htree, -⟩
    · exact .inl hfile.eq_file
    · exact .inr (.inl htree)
  · obtain ⟨hproblem, sources, start, hsources, hstart, hwrite⟩ := writeStubs_eq_ok hstubs
    rcases writePrograms_eq_error h with
      hfile | ⟨htree, ⟨error, hparse, -⟩ | ⟨laidOut, error, -, hlaidOut, herror⟩⟩
    · exact .inl hfile.eq_file
    · obtain ⟨⟨location, hfolder⟩, htext⟩ := readDocument_eq_ok hread
      have hnodup : (sources.map (·.1)).Nodup := by
        rw [(sources_of_emitAll hsources).1]
        decide
      have hname : Path.IsEntryName "boilerplate" := by decide
      have hstarted : start.tree.FolderAt folder location := hstart ▸ hfolder
      have hfilled := filled_of_writeSources hstarted hname hnodup hwrite
      rw [hstart, ← htree] at hfilled
      exact .inr (.inr ⟨⟨error, hparse⟩, location, text, problem, sources, hfolder, htext,
        hproblem, hsources, hfilled, hfilled.entry?_eq (by decide)⟩)
    · exact absurd herror (emitAll_ne_error hproblem hsources hlaidOut error)

/-- **What a failed generation leaves behind.** The tree is as before when something is missing or a
language cannot express the problem. When the document is wrong it is as before, or it holds the
stubs in addition. -/
theorem generate_atomic (folder : String) (tree : FileTree) :
    match generate {} folder tree with
    | (.error (.missing _ _), session) => session.tree = tree
    | (.error (.emission _), session) => session.tree = tree
    | (.error (.parse _), session) => session.tree = tree ∨ StubsOnly folder tree session.tree
    | (.error (.file _ _), _) => True
    | (.ok _, _) => True := by
  split
  · next h =>
    rcases run_eq_error h with ⟨_, _, h⟩ | htree | ⟨⟨_, h⟩, -⟩
    · cases h
    · exact htree
    · cases h
  · next h =>
    rcases run_eq_error h with ⟨_, _, h⟩ | htree | ⟨⟨_, h⟩, -⟩
    · cases h
    · exact htree
    · cases h
  · next h =>
    rcases run_eq_error h with ⟨_, _, h⟩ | htree | ⟨-, hstubs⟩
    · cases h
    · exact .inl htree
    · exact .inr hstubs
  · trivial
  · trivial

end StarterCode
