import Mathlib.Data.List.Sort
import Mathlib.Data.String.Basic
import StarterCode.Proofs.FileTree.Listing
import StarterCode.Proofs.Inspection.Pairing

/-!
# Reports and the order of listing

Only one check asks for the names in a folder, that of the test files, and it sorts them before it
does anything with them. No two different names are equally far in front, so there is one sorted
list of the same names, in whatever order they were listed (`mergeSort_eq_of_perm`). From there on
the findings are made of the sorted names and of what the files hold.

So the report is the same for any two orders in which the test files are listed
(`inspect_eq_of_listing`), and every order is one in which they can be listed.
-/

set_option autoImplicit false

namespace StarterCode

namespace Inspection

variable {tree other : FileTree}

/-- There is one way to sort names. -/
theorem mergeSort_eq_of_perm {names names' : List String} (h : names'.Perm names) :
    (names'.mergeSort fun left right => left ≤ right) =
      names.mergeSort fun left right => left ≤ right := by
  have hsorted := fun names : List String =>
    List.mergeSort_perm names fun left right => left ≤ right
  have hboth := ((hsorted names').trans h).trans (hsorted names).symm
  exact hboth.eq_of_pairwise' (List.pairwise_mergeSort' (· ≤ ·) names')
    (List.pairwise_mergeSort' (· ≤ ·) names)

/-- What is found about the test files depends on what they hold and on which there are. -/
theorem testFindings_eq (h : tree.HoldsSame other) {names names' : List String}
    (hnames : names'.Perm names) (folder : String) :
    testFindings other folder names' = testFindings tree folder names := by
  have hcontent : contentFindings other folder = contentFindings tree folder := by
    funext name
    rw [contentFindings, contentFindings, h.readText_eq]
  rw [testFindings, testFindings, mergeSort_eq_of_perm hnames, hcontent]

theorem layoutFindings_eq (h : tree.HoldsSame other) (folder : String) :
    layoutFindings other folder = layoutFindings tree folder := by
  simp only [layoutFindings, h.isFile_eq, h.isFolder_eq]

theorem fileFindings_eq (h : tree.HoldsSame other) (folder name : String) (group : CheckGroup)
    (check : String → List Finding) :
    fileFindings other folder name group check = fileFindings tree folder name group check := by
  simp only [fileFindings, h.isFile_eq, h.readText_eq]

/-- **The order of listing does not show.** Two trees that hold the same and list the same test
files of a folder, in any orders, have the same report on the folder. Where no place has two
entries, the test files can be listed in any order. -/
theorem inspect_eq_of_listing (tree : FileTree) (folder : String) :
    (∀ other, tree.HoldsSame other →
      (testNames other folder).Perm (testNames tree folder) →
      inspect other folder = inspect tree folder) ∧
    (tree.Distinct → ∀ names, names.Perm (testNames tree folder) →
      ∃ other, tree.HoldsSame other ∧ testNames other folder = names) := by
  refine ⟨?_, fun hdistinct names hnames => FileTree.exists_holdsSame_of_perm hdistinct hnames⟩
  intro other hsame hnames
  have htests := testFindings_eq hsame hnames (Path.join folder Finding.testsName)
  have hfindings : findings other folder = findings tree folder := by
    -- the names are looked at by one of the four checks, and the others see no difference at all
    unfold testNames at htests
    simp only [findings, htests, layoutFindings_eq hsame, fileFindings_eq hsame, hsame.isFolder_eq]
  rw [inspect, inspect, hfindings]

/-- A folder of tests, with the entries as they were made. -/
def grownTree : FileTree where
  entries := [(["p"], .folder), (["p", "tests"], .folder),
    (["p", "tests", "input2.txt"], .file "2".toUTF8),
    (["p", "tests", "output1.txt"], .file "".toUTF8),
    (["p", "tests", "input10.txt"], .file "10".toUTF8)]
  current := []

/-- The entries of `grownTree` the other way round. -/
def turnedTree : FileTree :=
  { grownTree with entries := grownTree.entries.reverse }

theorem inspect_eq_of_listing_turned :
    grownTree.HoldsSame turnedTree ∧
      testNames grownTree "p" = ["input2.txt", "output1.txt", "input10.txt"] ∧
      testNames turnedTree "p" = ["input10.txt", "output1.txt", "input2.txt"] ∧
      inspect turnedTree "p" = inspect grownTree "p" ∧
      ∃ other, grownTree.HoldsSame other ∧
        testNames other "p" = ["output1.txt", "input2.txt", "input10.txt"] := by
  have hdistinct : grownTree.Distinct := by
    unfold FileTree.Distinct
    decide
  have hsame : grownTree.HoldsSame turnedTree := hdistinct.holdsSame (List.reverse_perm _)
  have hgrown : testNames grownTree "p" = ["input2.txt", "output1.txt", "input10.txt"] := by
    decide +kernel
  have hturned : testNames turnedTree "p" = ["input10.txt", "output1.txt", "input2.txt"] := by
    decide +kernel
  obtain ⟨hreports, horders⟩ := inspect_eq_of_listing grownTree "p"
  rw [hgrown] at hreports horders
  have hreport := hreports turnedTree hsame (by rw [hturned]; decide)
  exact ⟨hsame, hgrown, hturned, hreport, horders hdistinct _ (by decide)⟩

end Inspection

end StarterCode
