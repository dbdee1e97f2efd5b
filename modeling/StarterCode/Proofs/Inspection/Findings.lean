import StarterCode.Inspection
import StarterCode.Proofs.FileTree.PathBytes
import StarterCode.Proofs.Text.Numbers

/-!
# Which check makes which finding

The findings about a folder are those of four groups of checks, one after the other. A finding knows
the group it belongs to, and no check makes findings of another group, so a finding about the tests
has to be looked for among those of the test files alone (`mem_findings_iff_of_tests`).

Reports hold texts instead of findings. That a file is missing from a test can be told from the text
(`eq_missingTest_of_message_eq`): no other finding has the same wording, and the number in it is the
number of the test. The text holds this number twice, so it is found by its length first.
-/

set_option autoImplicit false

namespace StarterCode

/-! ## Names of test files -/

/-- A text that stands twice between others is found from the whole. -/
theorem eq_of_append_twice {α : Type} {front middle back text text' : List α}
    (h : front ++ (text ++ (middle ++ (text ++ back))) =
      front ++ (text' ++ (middle ++ (text' ++ back)))) : text = text' := by
  have hrest := List.append_cancel_left h
  -- both occurrences grow and shrink together
  have hlength := congrArg List.length hrest
  simp only [List.length_append] at hlength
  exact List.append_inj_left hrest (by omega)

theorem toString_nat_injective {m n : Nat} (h : toString m = toString n) : m = n := by
  -- the number is read back from its digits
  have hnumber := congrArg (fun digits => Nat.ofDigitChars 10 digits.toList 0) h
  simpa [Nat.toString_eq_ofList_toDigits] using hnumber

namespace TestSide

/-- The name of a test file tells its number. -/
theorem eq_of_fileName_eq {side : TestSide} {m n : Nat} (h : side.fileName m = side.fileName n) :
    m = n := by
  rw [fileName, fileName, String.append_left_inj, String.append_right_inj] at h
  exact toString_nat_injective h

theorem isText_fileName (side : TestSide) (number : Nat) :
    Path.isText (side.fileName number) = true := by
  have hside : Path.mark ∉ side.text.toList := by cases side <;> decide
  have hnumber : Path.mark ∉ (toString number).toList :=
    Text.toList_toString number ▸ Text.not_mem_toDigits (by decide) number
  have hend : Path.mark ∉ ".txt".toList := by decide
  rw [Path.isText_iff, fileName, String.toList_append, String.toList_append, List.mem_append,
    List.mem_append, not_or, not_or]
  exact ⟨⟨hside, hnumber⟩, hend⟩

/-- The file of a test is one of the test files of its side. -/
theorem isTest_fileName (side : TestSide) (number : Nat) :
    Inspection.isTest side (side.fileName number) = true := by
  rw [Inspection.isTest, isText_fileName, Bool.true_and, Bool.and_eq_true,
    List.isPrefixOf_iff_prefix, List.isSuffixOf_iff_suffix, fileName, String.toList_append,
    String.toList_append]
  refine ⟨?_, List.suffix_append _ _⟩
  rw [List.append_assoc]
  exact List.prefix_append _ _

end TestSide

/-! ## Wordings -/

namespace Finding

theorem number_eq_of_message_eq {side : TestSide} {m n : Nat}
    (h : (missingTest side m).message = (missingTest side n).message) : m = n := by
  have htwice : ∀ number, (missingTest side number).message.toList =
      ("missing " ++ side.text ++ " file: " ++ side.text).toList ++ ((toString number).toList ++
        ((".txt (corresponding to " ++ side.opposite.text).toList ++ ((toString number).toList ++
          ".txt)".toList))) := by
    intro number
    unfold message
    simp [TestSide.fileName]
  have hlist := congrArg String.toList h
  rw [htwice, htwice] at hlist
  exact toString_nat_injective (String.toList_inj.mp (eq_of_append_twice hlist))

/-- **The wording is that of no other finding.** -/
theorem eq_missingTest_of_message_eq {finding : Finding} {side : TestSide} {number : Nat}
    (h : finding.message = (missingTest side number).message) :
    finding = missingTest side number := by
  -- four places at which the wordings differ
  have hstart : finding.message.toList.head? = some 'm' := by
    rw [h]
    unfold message
    simp
  have hfourth : finding.message.toList[3]? = some 's' := by
    rw [h]
    unfold message
    simp
  have hside : finding.message.toList[8]? = side.text.toList.head? := by
    rw [h]
    unfold message
    cases side <;> simp [TestSide.text]
  have hend : finding.message.toList.getLast? = some ')' := by
    rw [h]
    unfold message
    simp [List.getLast?_cons, List.getLast?_append]
  unfold message at hstart hfourth hside hend
  -- only a missing file, folder or field begins alike, and each differs at one of the other places
  cases finding with
  | missingTest side' number' =>
    have hsides : side' = side := by
      cases side' <;> cases side <;> simp [TestSide.text] at hside ⊢
    subst hsides
    rw [number_eq_of_message_eq h]
  | missingFile name => cases side <;> simp [TestSide.text] at hside
  | missingFolder name => cases side <;> simp [TestSide.text] at hside
  | missingField name => cases side <;> simp [TestSide.text] at hside
  | missingDefinitions name => simp [List.getLast?_cons, List.getLast?_append] at hend
  | unequalTests inputs outputs => simp [toString] at hfourth
  | _ => simp at hstart

end Finding

/-! ## Groups of checks -/

namespace Inspection

variable {tree : FileTree} {finding : Finding}

@[simp] theorem mem_whenever {condition : Bool} {other : Finding} :
    finding ∈ whenever condition other ↔ condition = true ∧ finding = other := by
  rw [whenever]
  by_cases h : condition = true
  · simp [h]
  · simp [h]

theorem group_of_mem_layoutFindings {folder : String} (h : finding ∈ layoutFindings tree folder) :
    finding.group = .layout := by
  simp only [layoutFindings, List.mem_append, List.mem_flatMap, mem_whenever] at h
  rcases h with ⟨name, -, -, rfl⟩ | ⟨-, rfl⟩
  · rfl
  · rfl

theorem group_of_mem_functionFindings {text : List Char} (h : finding ∈ functionFindings text) :
    finding.group = .document := by
  unfold functionFindings at h
  split at h
  · rw [List.mem_singleton.mp h]
    rfl
  · rw [(mem_whenever.mp h).2]
    rfl

theorem group_of_mem_documentFindings {document : String}
    (h : finding ∈ documentFindings document) : finding.group = .document := by
  simp only [documentFindings, List.mem_append, List.mem_flatMap, mem_whenever] at h
  rcases h with ((⟨label, -, -, rfl⟩ | ⟨label, -, -, rfl⟩) | ⟨-, rfl⟩) | h
  · rfl
  · rfl
  · rfl
  · exact group_of_mem_functionFindings h

theorem group_of_mem_descriptionFindings {description : String}
    (h : finding ∈ descriptionFindings description) : finding.group = .description := by
  simp only [descriptionFindings, List.mem_append, mem_whenever] at h
  rcases h with ((⟨-, rfl⟩ | ⟨-, rfl⟩) | ⟨-, rfl⟩) | ⟨-, rfl⟩
  · rfl
  · rfl
  · rfl
  · rfl

/-- A check on a file makes findings of its group, also where the file cannot be read. -/
theorem group_of_mem_fileFindings {folder name : String} {group : CheckGroup}
    {check : String → List Finding}
    (hcheck : ∀ text, ∀ finding ∈ check text, finding.group = group)
    (h : finding ∈ fileFindings tree folder name group check) : finding.group = group := by
  rw [fileFindings] at h
  split at h
  · split at h
    · next text htext => exact hcheck text finding h
    · rw [List.mem_singleton.mp h]
      rfl
  · cases h

/-- A finding about the tests is one of those of the test files. -/
theorem mem_findings_iff_of_tests {folder : String} (hfolder : tree.isFolder folder = true)
    (htests : tree.isFolder (Path.join folder Finding.testsName) = true)
    (hgroup : finding.group = .tests) :
    finding ∈ findings tree folder ↔ finding ∈ testFindings tree
      (Path.join folder Finding.testsName) (tree.list (Path.join folder Finding.testsName)) := by
  -- the other checks make findings of other groups
  have hlayout : finding ∉ layoutFindings tree folder := by
    intro h
    rw [group_of_mem_layoutFindings h] at hgroup
    cases hgroup
  have hdocument : finding ∉
      fileFindings tree folder Finding.documentName .document documentFindings := by
    intro h
    rw [group_of_mem_fileFindings (fun _ _ => group_of_mem_documentFindings) h] at hgroup
    cases hgroup
  have hdescription : finding ∉
      fileFindings tree folder Finding.descriptionName .description descriptionFindings := by
    intro h
    rw [group_of_mem_fileFindings (fun _ _ => group_of_mem_descriptionFindings) h] at hgroup
    cases hgroup
  simp only [findings, hfolder, htests, Bool.not_true, Bool.false_eq_true, if_false, if_true,
    List.mem_append, hlayout, hdocument, hdescription, false_or, or_false]

end Inspection

end StarterCode
