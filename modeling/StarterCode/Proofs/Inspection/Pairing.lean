import Mathlib.Data.List.Nodup
import Mathlib.Data.List.Perm.Subperm
import StarterCode.Proofs.Inspection.Findings

/-!
# Tests without their other half

A test is a file of each side with one number. The inspection goes through the numbers from 1 to the
number of files of the side that has more, and reports each number for which there is one file and
not the other.

So the bound is how many files there are, and not which numbers they have. A test that lacks a file
is reported exactly if its number is within the bound (`reports_missing_iff`). It always is when the
side that is there has no gaps, for then it has as many files as the number says; behind a gap it
may not be, and a folder may be valid with half a test in it (`exists_unreported_half`).
-/

set_option autoImplicit false

namespace StarterCode

namespace InspectionReport

/-- There is an error with this text in the report. -/
def Reports (report : InspectionReport) (message : String) : Prop :=
  ∃ diagnostic ∈ report.errors, diagnostic.message = message

theorem isValid_eq_false_of_reports {report : InspectionReport} {message : String}
    (h : report.Reports message) : report.isValid = false := by
  obtain ⟨diagnostic, hdiagnostic, -⟩ := h
  rw [isValid, List.isEmpty_eq_false_iff]
  exact List.ne_nil_of_mem hdiagnostic

end InspectionReport

namespace Inspection

/-- The text that reports the file of one side as missing from a test. -/
def missingMessage (side : TestSide) (number : Nat) : String :=
  "missing " ++ side.text ++ " file: " ++ side.fileName number ++ " (corresponding to " ++
    side.opposite.fileName number ++ ")"

/-- The names in the folder of tests. -/
def testNames (tree : FileTree) (folder : String) : List String :=
  tree.list (Path.join folder Finding.testsName)

/-- The files of one side, in the order in which they are looked at. -/
def filesOf (names : List String) (side : TestSide) : List String :=
  (names.mergeSort fun left right => left ≤ right).filter (isTest side)

/-- The number of the last test that is looked at. -/
def lastNumber (names : List String) : Nat :=
  max (names.countP (isTest .input)) (names.countP (isTest .output))

section Findings

variable {tree : FileTree} {folder : String} {side : TestSide} {number : Nat}

/-- The text is reported exactly when the finding is made. -/
theorem reports_missingMessage_iff :
    (inspect tree folder).Reports (missingMessage side number) ↔
      .missingTest side number ∈ findings tree folder := by
  have hmessage : (Finding.missingTest side number).message = missingMessage side number := rfl
  constructor
  · rintro ⟨diagnostic, hdiagnostic, htext⟩
    -- the report tells some finding, and the wording says which one it is
    obtain ⟨finding, hfinding, rfl⟩ := List.mem_map.mp (List.mem_filter.mp hdiagnostic).1
    have hwording : finding.message = (Finding.missingTest side number).message :=
      htext.trans hmessage.symm
    rw [← Finding.eq_missingTest_of_message_eq hwording]
    exact hfinding
  · intro h
    refine ⟨(Finding.missingTest side number).diagnostic, ?_, hmessage⟩
    exact List.mem_filter.mpr ⟨List.mem_map_of_mem h, rfl⟩

/-- One number gives the finding about itself, if one file is there and the other is not. -/
theorem missingTest_mem_pairFindings_iff {files : TestSide → List String} {other : Nat} :
    .missingTest side number ∈ pairFindings (files .input) (files .output) other ↔
      number = other ∧ side.opposite.fileName number ∈ files side.opposite ∧
        side.fileName number ∉ files side := by
  rw [pairFindings]
  simp only [List.mem_append, mem_whenever, Bool.and_eq_true, Bool.not_eq_true',
    List.contains_iff_mem, ← Bool.not_eq_true]
  constructor
  · rintro (⟨⟨hthere, hmissing⟩, heq⟩ | ⟨⟨hthere, hmissing⟩, heq⟩)
    · cases heq
      exact ⟨rfl, hthere, hmissing⟩
    · cases heq
      exact ⟨rfl, hthere, hmissing⟩
  · rintro ⟨rfl, hthere, hmissing⟩
    -- a missing output is looked for before a missing input
    cases side with
    | input => exact .inr ⟨⟨hthere, hmissing⟩, rfl⟩
    | output => exact .inl ⟨⟨hthere, hmissing⟩, rfl⟩

/-- A side has a file when the folder has a file with this name, because a name that is made for a
side is one of its names. -/
theorem fileName_mem_filesOf_iff {names : List String} :
    side.fileName number ∈ filesOf names side ↔ side.fileName number ∈ names := by
  rw [filesOf, List.mem_filter, (List.mergeSort_perm _ _).mem_iff]
  exact and_iff_left (TestSide.isTest_fileName side number)

theorem length_filesOf (names : List String) (side : TestSide) :
    (filesOf names side).length = names.countP (isTest side) := by
  rw [filesOf, ← List.countP_eq_length_filter, (List.mergeSort_perm _ _).countP_eq]

/-- A file is found to be missing only where the numbers are gone through. What is said about how
many files there are and about their content is something else. -/
theorem missingTest_mem_testFindings_iff_exists {names : List String} :
    .missingTest side number ∈ testFindings tree folder names ↔
      ∃ index < lastNumber names, .missingTest side number ∈
        pairFindings (filesOf names .input) (filesOf names .output) (index + 1) := by
  have hcontent : ∀ name, .missingTest side number ∉ contentFindings tree folder name := by
    -- a file that is there can be empty or unreadable, and nothing else
    intro name h
    unfold contentFindings at h
    split at h
    · cases List.mem_singleton.mp h
    · cases (mem_whenever.mp h).2
  rw [lastNumber, ← length_filesOf, ← length_filesOf]
  unfold testFindings
  simp only [List.mem_append, mem_whenever, List.mem_flatMap, hcontent, reduceCtorEq, and_false,
    exists_false, or_false, false_or, List.mem_map, List.mem_range, filesOf,
    exists_exists_and_eq_and]

/-- Among the findings about test files, one says that a file is missing exactly when the number of
the test is looked at and the file is the only one missing. -/
theorem missingTest_mem_testFindings_iff {names : List String} :
    .missingTest side number ∈ testFindings tree folder names ↔
      (1 ≤ number ∧ number ≤ lastNumber names) ∧
        side.opposite.fileName number ∈ names ∧ side.fileName number ∉ names := by
  simp only [missingTest_mem_testFindings_iff_exists, missingTest_mem_pairFindings_iff,
    fileName_mem_filesOf_iff]
  constructor
  · rintro ⟨index, hindex, rfl, hthere, hmissing⟩
    exact ⟨⟨by omega, by omega⟩, hthere, hmissing⟩
  · rintro ⟨⟨hpos, hlast⟩, hthere, hmissing⟩
    exact ⟨number - 1, by omega, by omega, hthere, hmissing⟩

/-- A side that has a file for every number up to some number has at least that many files. The
files are different, because their names tell their numbers. -/
theorem le_countP_of_forall_mem {names : List String}
    (h : ∀ n, 1 ≤ n → n ≤ number → side.fileName n ∈ names) :
    number ≤ names.countP (isTest side) := by
  let numbered : List String := (List.range number).map fun index => side.fileName (index + 1)
  have hnodup : numbered.Nodup := by
    apply List.nodup_range.map
    intro m n heq
    exact Nat.succ.inj (TestSide.eq_of_fileName_eq heq)
  have hsubset : numbered ⊆ names.filter (isTest side) := by
    intro name hname
    obtain ⟨index, hindex, rfl⟩ := List.mem_map.mp hname
    have hlt := List.mem_range.mp hindex
    exact List.mem_filter.mpr ⟨h (index + 1) (by omega) (by omega), TestSide.isTest_fileName _ _⟩
  have hlength := (List.subperm_of_subset hnodup hsubset).length_le
  rw [List.length_map, List.length_range] at hlength
  rw [List.countP_eq_length_filter]
  exact hlength

end Findings

/-- **Which halves of tests are reported.** In a folder with tests, a file is reported as missing
exactly when it is missing, the other file of the test is there, and the number of the test is at
most that of the files of the side that has more. A folder with such a report is not valid. Where
the side of the other file has no gap before it, the missing file is reported. -/
theorem reports_missing_iff {tree : FileTree} {folder : String}
    (hfolder : tree.isFolder folder = true)
    (htests : tree.isFolder (Path.join folder Finding.testsName) = true)
    (side : TestSide) (number : Nat) :
    ((inspect tree folder).Reports (missingMessage side number) ↔
      (1 ≤ number ∧ number ≤ lastNumber (testNames tree folder)) ∧
        side.opposite.fileName number ∈ testNames tree folder ∧
        side.fileName number ∉ testNames tree folder) ∧
    ((inspect tree folder).Reports (missingMessage side number) →
      (inspect tree folder).isValid = false) ∧
    (1 ≤ number →
      (∀ n, 1 ≤ n → n ≤ number → side.opposite.fileName n ∈ testNames tree folder) →
      side.fileName number ∉ testNames tree folder →
      (inspect tree folder).Reports (missingMessage side number)) := by
  have hreports : (inspect tree folder).Reports (missingMessage side number) ↔
      (1 ≤ number ∧ number ≤ lastNumber (testNames tree folder)) ∧
        side.opposite.fileName number ∈ testNames tree folder ∧
        side.fileName number ∉ testNames tree folder := by
    rw [reports_missingMessage_iff, mem_findings_iff_of_tests hfolder htests rfl]
    exact missingTest_mem_testFindings_iff
  refine ⟨hreports, InspectionReport.isValid_eq_false_of_reports, ?_⟩
  intro hpos hgapless hmissing
  -- the side without gaps has enough files by itself to have the number looked at
  have hcount : number ≤ (testNames tree folder).countP (isTest side.opposite) :=
    le_countP_of_forall_mem hgapless
  have hlast : number ≤ lastNumber (testNames tree folder) := by
    rw [lastNumber]
    cases side with
    | input => exact Nat.le_trans hcount (Nat.le_max_right _ _)
    | output => exact Nat.le_trans hcount (Nat.le_max_left _ _)
  exact hreports.mpr ⟨⟨hpos, hlast⟩, hgapless number hpos (Nat.le_refl number), hmissing⟩

/-- A folder that has nothing but two inputs, of which one has a number that is too large. -/
def halvesTree : FileTree where
  entries := [(["p"], .folder), (["p", "tests"], .folder),
    (["p", "tests", "input2.txt"], .file "2".toUTF8),
    (["p", "tests", "input7.txt"], .file "7".toUTF8)]
  current := []

theorem reports_missing_iff_halves :
    (inspect halvesTree "p").Reports
        "missing output file: output2.txt (corresponding to input2.txt)" ∧
      ¬ (inspect halvesTree "p").Reports
        "missing output file: output7.txt (corresponding to input7.txt)" ∧
      (inspect halvesTree "p").isValid = false := by
  have hnames : testNames halvesTree "p" = ["input2.txt", "input7.txt"] := by decide +kernel
  have hreports :=
    @reports_missing_iff halvesTree "p" (by decide +kernel) (by decide +kernel) .output
  rw [hnames] at hreports
  have hsecond : (inspect halvesTree "p").Reports (missingMessage .output 2) :=
    (hreports 2).1.mpr (by decide +kernel)
  refine ⟨hsecond, ?_, (hreports 2).2.1 hsecond⟩
  intro hseventh
  exact absurd ((hreports 7).1.mp hseventh) (by decide +kernel)

/-- The document in a folder that lacks nothing but one output. -/
def gappedDocument : String :=
  "\n".intercalate ["Problem Name: \"G\"", "Function Name: g", "Input Structure:",
    "Input Field: a int", "Output Structure:", "Output Field: int"]

/-- A folder with the first test and, behind a gap, one half of the third. -/
def gappedTree : FileTree where
  entries := [(["p"], .folder),
    (["p", "Problem.md"], .file "A problem, an example and a constraint.".toUTF8),
    (["p", "Structure.md"], .file gappedDocument.toUTF8), (["p", "tests"], .folder),
    (["p", "tests", "input1.txt"], .file "1".toUTF8),
    (["p", "tests", "input3.txt"], .file "3".toUTF8),
    (["p", "tests", "output1.txt"], .file "1".toUTF8)]
  current := []

/-- **A half behind a gap is not reported,** and the folder that holds it may be valid. -/
theorem exists_unreported_half :
    ∃ tree folder number, tree.isFolder folder = true ∧
      tree.isFolder (Path.join folder Finding.testsName) = true ∧ 1 ≤ number ∧
      TestSide.input.fileName number ∈ testNames tree folder ∧
      TestSide.output.fileName number ∉ testNames tree folder ∧
      ¬ (inspect tree folder).Reports (missingMessage .output number) ∧
      (inspect tree folder).isValid = true := by
  have hnames : testNames gappedTree "p" = ["input1.txt", "input3.txt", "output1.txt"] := by
    decide +kernel
  have hlist : gappedTree.list (Path.join "p" Finding.testsName) =
      ["input1.txt", "input3.txt", "output1.txt"] := hnames
  -- sorting does not reduce, so the sorted list is given
  have hsorted : (["input1.txt", "input3.txt", "output1.txt"].mergeSort
      fun left right => left ≤ right) = ["input1.txt", "input3.txt", "output1.txt"] :=
    List.mergeSort_of_pairwise (by decide +kernel)
  have hvalid : (inspect gappedTree "p").isValid = true := by
    simp only [inspect, findings, testFindings, hlist, hsorted]
    decide +kernel
  have hunreported : ¬ (inspect gappedTree "p").Reports (missingMessage .output 3) := by
    -- any error at all would make the folder invalid
    intro hreports
    rw [InspectionReport.isValid_eq_false_of_reports hreports] at hvalid
    cases hvalid
  refine ⟨gappedTree, "p", 3, by decide +kernel, by decide +kernel, by decide, ?_, ?_,
    hunreported, hvalid⟩
  · rw [hnames]
    decide +kernel
  · rw [hnames]
    decide +kernel

end Inspection

end StarterCode
