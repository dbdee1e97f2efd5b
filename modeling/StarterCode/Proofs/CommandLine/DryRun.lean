import StarterCode.Proofs.CommandLine.Forms
import StarterCode.Proofs.Generation.Atomicity
import StarterCode.Proofs.Inspection.Findings

/-!
# What a dry run promises

Validating with a dry run makes every program of a folder and writes none. It does less than the
generation does, which also makes the stubs, checks by itself that folder and document are there,
and writes. Two things have to be seen for its verdict to carry over.

* A dry run says nothing about a document that it cannot read. But then the inspection has found
  something, so behind the exit status 0 there is a document that can be read.
* The stubs are not tried. But a document that gives a program gives its stub, and a stub fails
  only where the program fails.

So behind the exit status 0 the generation fails over nothing but what it writes itself
(`dryRun_agrees`). The other way round, a generation that succeeds has made every program, and a dry
run on the same document has no message.
-/

set_option autoImplicit false

namespace StarterCode

/-! ## Valid folders -/

namespace Inspection

variable {tree : FileTree} {folder : String}

/-- A folder is valid when everything that is found is a warning. -/
theorem isValid_iff : (inspect tree folder).isValid = true ↔
    ∀ finding ∈ findings tree folder, finding.severity = .warning := by
  have hseverity : ∀ finding : Finding,
      ¬ (finding.diagnostic.severity == .error) = true ↔ finding.severity = .warning := by
    intro finding
    rw [Finding.diagnostic]
    cases finding.severity <;> simp
  simp only [InspectionReport.isValid, List.isEmpty_iff, InspectionReport.errors,
    List.filter_eq_nil_iff, inspect, List.forall_mem_map, hseverity]

/-- A valid folder is there and has a document that can be read. -/
theorem exists_readText_of_isValid (h : (inspect tree folder).isValid = true) :
    tree.isFolder folder = true ∧
      tree.isFile (Path.join folder Finding.documentName) = true ∧
      ∃ text, tree.readText (Path.join folder Finding.documentName) = .ok text := by
  rw [isValid_iff] at h
  -- whatever is missing would have been found, and none of these findings is a warning
  have hfolder : tree.isFolder folder = true := by
    by_contra hnone
    rw [Bool.not_eq_true] at hnone
    have hmem : .noFolder folder ∈ findings tree folder := by simp [findings, hnone]
    cases h _ hmem
  have hfile : tree.isFile (Path.join folder Finding.documentName) = true := by
    by_contra hnone
    rw [Bool.not_eq_true] at hnone
    have hmem : .missingFile Finding.documentName ∈ findings tree folder := by
      simp [findings, hfolder, layoutFindings, hnone]
    cases h _ hmem
  refine ⟨hfolder, hfile, ?_⟩
  cases htext : tree.readText (Path.join folder Finding.documentName) with
  | ok text => exact ⟨text, rfl⟩
  | error fault =>
    have hmem : .unreadable .document Finding.documentName fault ∈ findings tree folder := by
      simp [findings, hfolder, fileFindings, hfile, htext]
    cases h _ hmem

end Inspection

/-! ## Runs of the generation -/

namespace Generation

variable {folder text : String} {tree : FileTree}

/-- The paths at which the generation writes. -/
def outputPaths (folder : String) : List String :=
  targets (Path.join folder "boilerplate") ++ targets (Path.join folder "boilerplate-full")

/-- The document is none of the files that are written, since its name ends otherwise. -/
theorem document_not_mem_outputPaths (folder : String) :
    Path.join folder "Structure.md" ∉ outputPaths folder := by
  intro hmem
  -- the last letter of a joined path is that of the name
  have hends : ∀ path ∈ outputPaths folder, path.toList.getLast? ≠ some 'd' := by
    simp only [outputPaths, targets, Language.all, List.mem_append, List.mem_cons, List.map_cons,
      List.map_nil, List.not_mem_nil, or_false]
    rintro path ((rfl | rfl | rfl | rfl) | (rfl | rfl | rfl | rfl))
    all_goals
      rw [Path.getLast?_join (by decide)]
      decide
  refine hends _ hmem ?_
  rw [Path.getLast?_join (by decide)]
  decide

theorem readDocument_of_readText {layout : GenerationLayout} (hfolder : tree.isFolder folder = true)
    (hfile : tree.isFile (Path.join folder layout.document) = true)
    (htext : tree.readText (Path.join folder layout.document) = .ok text) :
    readDocument layout folder tree = .ok text := by
  simp [readDocument, hfolder, hfile, htext]

/-- A stub fails only where the program fails. -/
theorem exists_of_emitAll_problem_eq_error {laidOut : LaidOutProblem} {error : EmissionError}
    (hfits : laidOut.Fits) (h : emitAll laidOut.problem.emit = .error error) :
    ∃ language, laidOut.emit language = .error error := by
  obtain ⟨language, hlanguage⟩ := exists_of_emitAll_eq_error h
  rw [Problem.emit_eq_error, ← LaidOutProblem.emit_eq_error hfits] at hlanguage
  exact ⟨language, hlanguage⟩

/-- On a document whose programs can all be made, a run fails over nothing but what it writes. -/
theorem mem_outputPaths_of_run_eq_error {laidOut : LaidOutProblem} {failure : Failure}
    {session : Session} (hread : readDocument {} folder tree = .ok text)
    (hparse : LaidOutProblem.parse text = .ok laidOut)
    (hemit : ∀ language, ∃ code, laidOut.emit language = .ok code)
    (h : (run {} folder).run.run ⟨tree, []⟩ = (.error failure, session)) :
    ∃ path ∈ outputPaths folder, ∃ fault, failure = .file path fault := by
  obtain ⟨hproblem, hfits⟩ := LaidOutProblem.fits_of_parse hparse
  have hnone : ∀ language error, laidOut.emit language ≠ .error error := by
    intro language error herror
    obtain ⟨code, hcode⟩ := hemit language
    rw [hcode] at herror
    cases herror
  rcases run_eq_error_iff.mp h with ⟨hmissing, -⟩ | ⟨text', hread', h⟩
  · rw [hread] at hmissing
    cases hmissing
  · rw [hread, Except.ok.injEq] at hread'
    subst hread'
    -- of what the stubs and the programs can fail over, only the writing is left
    rcases h with h | ⟨_, _, -, h⟩
    · rcases writeStubs_eq_error h with
        ⟨path, hpath, hfault⟩ | ⟨-, ⟨error, -, herror⟩ | ⟨problem, error, -, hread, herror⟩⟩
      · exact ⟨path, List.mem_append_left _ hpath, hfault⟩
      · rw [hproblem] at herror
        cases herror
      · rw [hproblem, Except.ok.injEq] at hread
        subst hread
        obtain ⟨language, hlanguage⟩ := exists_of_emitAll_problem_eq_error hfits herror
        exact absurd hlanguage (hnone language error)
    · rcases writePrograms_eq_error h with
        ⟨path, hpath, hfault⟩ | ⟨-, ⟨error, -, herror⟩ | ⟨laidOut', error, -, hread, herror⟩⟩
      · exact ⟨path, List.mem_append_right _ hpath, hfault⟩
      · rw [hparse] at herror
        cases herror
      · rw [hparse, Except.ok.injEq] at hread
        subst hread
        obtain ⟨language, hlanguage⟩ := exists_of_emitAll_eq_error herror
        exact absurd hlanguage (hnone language error)

/-- A run that succeeds has made all programs of the document. -/
theorem exists_emit_of_run_eq_ok {report : GenerationReport} {session : Session}
    (h : (run {} folder).run.run ⟨tree, []⟩ = (.ok report, session)) :
    ∃ text laidOut, tree.readText (Path.join folder "Structure.md") = .ok text ∧
      LaidOutProblem.parse text = .ok laidOut ∧
      ∀ language, ∃ code, laidOut.emit language = .ok code := by
  rw [Generation.run, run_get_bind, run_ofResult_bind_eq_ok] at h
  obtain ⟨text, hread, h⟩ := h
  obtain ⟨_, between, -, h⟩ := run_bind_eq_ok.mp h
  obtain ⟨_, _, hprograms, -⟩ := run_bind_eq_ok.mp h
  rw [writePrograms, run_record_bind, run_ofResult_bind_eq_ok] at hprograms
  obtain ⟨laidOut, hlaidOut, hprograms⟩ := hprograms
  obtain ⟨sources, hsources, -⟩ := run_ofResult_bind_eq_ok.mp hprograms
  refine ⟨text, laidOut, (readDocument_eq_ok hread).2, mapError_eq_ok.mp hlaidOut, ?_⟩
  intro language
  obtain ⟨hlanguages, hcodes⟩ := sources_of_emitAll (mapError_eq_ok.mp hsources)
  have hmem : language ∈ sources.map (·.1) := hlanguages ▸ language.mem_all
  obtain ⟨source, hsource, rfl⟩ := List.mem_map.mp hmem
  exact ⟨source.2, hcodes source hsource⟩

end Generation

/-! ## Dry runs -/

namespace CommandLine

variable {tree : FileTree} {folder text : String}

/-- A dry run on a document has no message when all programs can be made. -/
theorem dryRun_eq_nil_iff
    (htext : tree.readText (Path.join folder Finding.documentName) = .ok text) :
    dryRun tree folder = [] ↔ ∃ laidOut, LaidOutProblem.parse text = .ok laidOut ∧
      ∀ language, ∃ code, laidOut.emit language = .ok code := by
  cases hparse : LaidOutProblem.parse text with
  | error error => simp [dryRun, htext, hparse]
  | ok laidOut =>
    simp only [dryRun, htext, hparse, List.filterMap_eq_nil_iff, Except.ok.injEq, exists_eq_left']
    constructor
    · intro h language
      have hlanguage := h language language.mem_all
      cases hcode : laidOut.emit language with
      | ok code => exact ⟨code, rfl⟩
      | error error => simp [hcode] at hlanguage
    · intro h language _
      obtain ⟨code, hcode⟩ := h language
      rw [hcode]

/-- **What a dry run promises.** When validating with a dry run exits with 0, generating on the same
files succeeds or fails over a file or folder that it writes, and the document is none of them. When
there is a document that can be read and the dry run has a message, generating fails. -/
theorem dryRun_agrees (tree : FileTree) (folder : String) :
    (∀ arguments json quiet, request arguments = .run (.validate folder json true) quiet →
      (answer arguments tree).1.status = 0 →
      ∀ failure, (generate {} folder tree).1 = .error failure →
        ∃ path ∈ Generation.outputPaths folder, ∃ fault, failure = .file path fault) ∧
    Path.join folder "Structure.md" ∉ Generation.outputPaths folder ∧
    ∀ text, tree.readText (Path.join folder "Structure.md") = .ok text →
      dryRun tree folder ≠ [] → ∃ failure, (generate {} folder tree).1 = .error failure := by
  refine ⟨?_, Generation.document_not_mem_outputPaths folder, ?_⟩
  · intro arguments json quiet hrequest hstatus failure hfailure
    have hverdict : (judge tree folder true).status = 0 := by
      rw [answer, hrequest] at hstatus
      exact Verdict.status_eq_zero_of_response hstatus
    obtain ⟨hvalid, hnone⟩ := Verdict.status_eq_zero_iff.mp hverdict
    obtain ⟨hfolder, hfile, text, htext⟩ := Inspection.exists_readText_of_isValid hvalid
    obtain ⟨laidOut, hparse, hemit⟩ := (dryRun_eq_nil_iff htext).mp hnone
    have hread : Generation.readDocument {} folder tree = .ok text :=
      Generation.readDocument_of_readText hfolder hfile htext
    exact Generation.mem_outputPaths_of_run_eq_error hread hparse hemit (Prod.ext hfailure rfl)
  · intro text htext hsome
    cases hgenerate : (generate {} folder tree).1 with
    | error failure => exact ⟨failure, rfl⟩
    | ok report =>
      obtain ⟨text', laidOut, htext', hparse, hemit⟩ :=
        Generation.exists_emit_of_run_eq_ok (Prod.ext hgenerate rfl)
      exact absurd ((dryRun_eq_nil_iff htext').mpr ⟨laidOut, hparse, hemit⟩) hsome

/-- A complete folder whose programs cannot be written, since a file is in the way, and a folder
with an empty document. -/
def blockedTree : FileTree where
  entries := [(["p"], .folder),
    (["p", "Problem.md"], .file "A problem.".toUTF8),
    (["p", "Structure.md"], .file ("\n".intercalate ["Problem Name: \"S\"", "Function Name: s",
      "Input Structure:", "Input Field: a int", "Output Structure:", "Output Field: int"]).toUTF8),
    (["p", "boilerplate"], .file "".toUTF8), (["p", "tests"], .folder),
    (["p", "tests", "input1.txt"], .file "1".toUTF8),
    (["p", "tests", "output1.txt"], .file "1".toUTF8),
    (["q"], .folder), (["q", "Structure.md"], .file "".toUTF8)]
  current := []

theorem dryRun_agrees_blocked :
    (answer ["validate", "p", "--dry-run"] blockedTree).1.status = 0 ∧
      (∃ failure, (generate {} "p" blockedTree).1 = .error failure ∧
        ∃ path ∈ Generation.outputPaths "p", ∃ fault, failure = .file path fault) ∧
      dryRun blockedTree "q" ≠ [] ∧
      ∃ failure, (generate {} "q" blockedTree).1 = .error failure := by
  have hrequest : request ["validate", "p", "--dry-run"] =
      .run (.validate "p" false true) false := by
    simp [request, requestFrom, requestFor, commands, List.lookup_cons, Argument.ofText,
      Given.addAll, Given.addWord, Given.addSwitch, command?, bind, Except.bind]
  -- sorting does not reduce, so the sorted list is given
  have hlist : blockedTree.list (Path.join "p" Finding.testsName) =
      ["input1.txt", "output1.txt"] := by
    decide +kernel
  have hsorted : (["input1.txt", "output1.txt"].mergeSort fun left right => left ≤ right) =
      ["input1.txt", "output1.txt"] :=
    List.mergeSort_of_pairwise (by decide +kernel)
  have hvalid : (inspect blockedTree "p").isValid = true := by
    simp only [inspect, Inspection.findings, Inspection.testFindings, hlist, hsorted]
    decide +kernel
  have hverdict : (judge blockedTree "p" true).status = 0 :=
    Verdict.status_eq_zero_iff.mpr ⟨hvalid, by decide +kernel⟩
  have hstatus : (answer ["validate", "p", "--dry-run"] blockedTree).1.status = 0 := by
    rw [answer, hrequest]
    exact ((judge blockedTree "p" true).status_response_lines false).trans hverdict
  obtain ⟨failure, hfailure⟩ : ∃ failure, (generate {} "p" blockedTree).1 = .error failure :=
    exists_eq_error_of_toOption (by decide +kernel)
  have hread : blockedTree.readText (Path.join "q" "Structure.md") = .ok "" :=
    eq_ok_of_toOption (by decide +kernel)
  have hsome : dryRun blockedTree "q" ≠ [] := by decide +kernel
  have hfirst := (dryRun_agrees blockedTree "p").1 _ _ _ hrequest hstatus failure hfailure
  have hsecond := (dryRun_agrees blockedTree "q").2.2 "" hread hsome
  exact ⟨hstatus, ⟨failure, hfailure, hfirst⟩, hsome, hsecond⟩

end CommandLine

end StarterCode
