import StarterCode.Proofs.Inspection.Accepted

/-!
# The check of the function name

For the name of the function the inspection reads word characters behind the label, across any
blanks. It does not ask what follows them, and it does not ask where the line ends.

Let the label and its colon stand at one place of the document, on a line that carries the label.
What is behind them on the line is the value, unless the place is inside a value that has a colon
itself (`trim_eq_value`). The check goes by one word: the word characters at the front of the value,
or, if there is no value, at the front of the next line that is not blank. It faults the document if
and only if this word is no identifier (`faultsFunctionName_iff`).

About a value that is made of word characters alone the check is right, and so it never faults a
document for a name that can be read. But a value that begins with an identifier and goes on
otherwise passes, and so does an empty value in front of some other line (`invalid_not_faulted`).
-/

set_option autoImplicit false

namespace StarterCode

namespace Text

/-! ## The word at the front -/

/-- The word characters at the front of a text, blanks apart. -/
def leadingWord (text : List Char) : List Char :=
  (trimLeft text).takeWhile isWordChar

/-- The first of the texts that is not blank, trimmed. If all are blank it is empty. -/
def firstFilled : List (List Char) → List Char
  | [] => []
  | text :: rest => if (trim text).isEmpty then firstFilled rest else trim text

/-- A word ends at a blank. -/
theorem takeWhile_isWordChar_append {back : List Char} (h : ∀ c ∈ back.head?, isBlank c = true)
    (text : List Char) : (text ++ back).takeWhile isWordChar = text.takeWhile isWordChar := by
  have hback : back.takeWhile isWordChar = [] := by
    cases back with
    | nil => rfl
    | cons c back =>
      rw [List.takeWhile_cons, isWordChar_of_isBlank (h c rfl)]
      rfl
  rw [List.takeWhile_append, hback, List.append_nil]
  split
  · next hlength => exact ((List.takeWhile_prefix isWordChar).eq_of_length hlength).symm
  · rfl

theorem leadingWord_append_of_isBlank {blanks : List Char} (h : ∀ c ∈ blanks, isBlank c = true)
    (text : List Char) : leadingWord (blanks ++ text) = leadingWord text := by
  rw [leadingWord, trimLeft, List.dropWhile_append_of_pos h]
  rfl

/-- The word at the front is that of the trimmed text, and only if this is empty is it looked for
behind the text. -/
theorem leadingWord_append {back : List Char} (h : ∀ c ∈ back.head?, isBlank c = true)
    (text : List Char) : leadingWord (text ++ back) =
      if (trim text).isEmpty then leadingWord back else (trim text).takeWhile isWordChar := by
  obtain ⟨blanks, hblanks, hall⟩ := exists_trimRight (trimLeft text)
  by_cases hempty : trimLeft text = []
  · have hblank : ∀ c ∈ text, isBlank c = true := List.dropWhile_eq_nil_iff.mp hempty
    rw [leadingWord_append_of_isBlank hblank, trim, hempty]
    rfl
  · have hleft : trimLeft (text ++ back) = trim text ++ (blanks ++ back) := by
      have hfilled : (text.dropWhile isBlank).isEmpty = false :=
        List.isEmpty_eq_false_iff.mpr hempty
      rw [trimLeft, List.dropWhile_append, hfilled, if_neg Bool.false_ne_true, trim,
        ← List.append_assoc, ← hblanks]
      rfl
    have htrim : (trim text).isEmpty = false := by
      rcases trimLeft_eq_nil_or text with hnil | ⟨c, rest, hcons, hc⟩
      · exact absurd hnil hempty
      · rw [trim, hcons, trimRight_cons hc]
        rfl
    have hhead : ∀ c ∈ (blanks ++ back).head?, isBlank c = true := by
      intro c hc
      cases blanks with
      | nil => exact h c hc
      | cons d blanks => exact Option.some.inj hc ▸ hall d List.mem_cons_self
    rw [leadingWord, hleft, takeWhile_isWordChar_append hhead, htrim, if_neg Bool.false_ne_true]

/-- A carriage return at the end of a piece is a blank. -/
theorem trim_dropReturn (piece : List Char) : trim (dropReturn piece) = trim piece := by
  rcases dropReturn_eq_or piece with heq | heq
  · rw [← heq]
  · have hreturn : ∀ c ∈ ['\r'], isBlank c = true := List.forall_mem_singleton.mpr rfl
    conv_rhs => rw [heq, trim_append_of_isBlank _ hreturn]

/-- The word at the front of a text is that of its first line that is not blank. -/
theorem leadingWord_eq (text : List Char) :
    leadingWord text = (firstFilled (lines text)).takeWhile isWordChar := by
  -- the induction goes from line to line
  induction hlength : text.length using Nat.strong_induction_on generalizing text with
  | _ n ih =>
  by_cases hfeed : '\n' ∈ text
  · obtain ⟨line, rest, rfl, hline⟩ := List.eq_append_cons_of_mem hfeed
    have hshort : rest.length < n := by
      rw [← hlength, List.length_append, List.length_cons]
      omega
    have hblank : ∀ c ∈ ['\n'], isBlank c = true := List.forall_mem_singleton.mpr rfl
    have hhead : ∀ c ∈ ('\n' :: rest).head?, isBlank c = true := by
      intro c hc
      rw [← Option.some.inj hc]
      rfl
    have hrest : leadingWord ('\n' :: rest) = leadingWord rest :=
      leadingWord_append_of_isBlank hblank rest
    rw [lines_append_cons hline, firstFilled, trim_dropReturn, leadingWord_append hhead, hrest,
      ih _ hshort rest rfl]
    split <;> rfl
  · have hword : leadingWord (text ++ []) = _ := leadingWord_append (by simp) text
    rw [List.append_nil] at hword
    rw [hword, lines_of_not_mem hfeed]
    by_cases hnil : text = []
    · subst hnil
      rfl
    · rw [if_neg hnil, firstFilled]
      split <;> rfl

end Text

namespace Inspection

/-! ## What is read behind the label -/

/-- What stands behind a line has the lines that follow it, so the word behind a text at the end of
the line is that of the text or of the first line behind it that is not blank. -/
theorem leadingWord_append_of_behind {back : List Char} {after : List (List Char)}
    (h : Text.Behind back after) (text : List Char) :
    Text.leadingWord (text ++ back) =
      (Text.firstFilled (text :: after)).takeWhile Text.isWordChar := by
  have hhead : ∀ c ∈ back.head?, Text.isBlank c = true := by
    intro c hc
    rcases h.head?_eq c hc with rfl | rfl <;> decide
  rcases h with ⟨rfl, rfl⟩ | ⟨lineEnd, rest, rfl, hlineEnd, rfl⟩
  · rw [Text.leadingWord_append hhead, Text.firstFilled]
    split <;> rfl
  · have hblank : ∀ c ∈ lineEnd, Text.isBlank c = true := by
      rcases hlineEnd with rfl | rfl <;> simp [Text.isBlank]
    rw [Text.leadingWord_append hhead, Text.leadingWord_append_of_isBlank hblank,
      Text.leadingWord_eq, Text.firstFilled]
    split <;> rfl

theorem functionNameAt?_labelText (text : List Char) :
    functionNameAt? ((labelText .functionName).toList ++ text) =
      if (Text.leadingWord (Text.dropPrefix Document.bold text)).isEmpty then none
      else some (Text.leadingWord (Text.dropPrefix Document.bold text)) := by
  rw [functionNameAt?, behindLabel?_append]
  rfl

/-! ## What is found -/

/-- The finding says that the function has no name, or that its name is no identifier. -/
def faultsName : Finding → Bool
  | .noFunctionName | .invalidFunctionName _ => true
  | _ => false

/-- The inspection says so of the function of the document. -/
def FaultsFunctionName (document : String) : Prop :=
  ∃ finding ∈ documentFindings document, faultsName finding = true

instance (document : String) : Decidable (FaultsFunctionName document) := by
  unfold FaultsFunctionName
  infer_instance

/-- All findings of the check of the function name say so, and no other one does. -/
theorem faultsFunctionName_iff_ne_nil {document : String} :
    FaultsFunctionName document ↔ functionFindings document.toList ≠ [] := by
  constructor
  · rintro ⟨finding, hfinding, hfaults⟩ hnil
    simp only [documentFindings, hnil, List.append_nil, List.mem_append, List.mem_flatMap,
      mem_whenever] at hfinding
    rcases hfinding with (⟨_, -, -, rfl⟩ | ⟨_, -, -, rfl⟩) | ⟨-, rfl⟩ <;> cases hfaults
  · intro hne
    obtain ⟨finding, hfinding⟩ := List.exists_mem_of_ne_nil _ hne
    refine ⟨finding, List.mem_append_right _ hfinding, ?_⟩
    unfold functionFindings at hfinding
    split at hfinding
    · rw [List.mem_singleton.mp hfinding]
      rfl
    · rw [(mem_whenever.mp hfinding).2]
      rfl

/-- The check goes by one word where the label with its colon stands once. -/
theorem faultsFunctionName_iff_leadingWord {document : String} {front text : List Char}
    (hcount : Text.count (labelText .functionName).toList document.toList = 1)
    (htext : document.toList = front ++ ((labelText .functionName).toList ++ text)) :
    FaultsFunctionName document ↔
      Text.isIdentifier (Text.leadingWord (Text.dropPrefix Document.bold text)) = false := by
  have hread : ∀ text answer, functionNameAt? text = some answer →
      (labelText .functionName).toList <+: text := by
    intro text answer hanswer
    obtain ⟨behind, hbehind, -⟩ := Option.bind_eq_some_iff.mp hanswer
    exact exists_prefix_of_behindLabel? hbehind
  rw [faultsFunctionName_iff_ne_nil, functionFindings,
    Text.findFrom?_eq_of_count_eq_one hread hcount htext, functionNameAt?_labelText]
  generalize Text.leadingWord (Text.dropPrefix Document.bold text) = word
  cases word with
  | nil => exact iff_of_true (List.cons_ne_nil _ _) rfl
  | cons c word =>
    rw [List.isEmpty_cons, if_neg Bool.false_ne_true]
    cases hidentifier : Text.isIdentifier (c :: word) <;> simp [whenever, hidentifier]

/-! ## The value of the line -/

theorem not_isDecoration_colon : ¬ Document.IsDecoration ':' := by
  rw [Document.IsDecoration]
  decide

/-- A text has no colon if its value has none. -/
theorem colon_not_mem_of_trim {text : List Char}
    (h : ':' ∉ Text.trim (Text.dropPrefix Document.bold text)) : ':' ∉ text := by
  have hbold : ∀ c ∈ Document.bold, Document.IsDecoration c := by
    simp [Document.bold, Document.IsDecoration]
  obtain ⟨decoration, htext, hdecoration⟩ :=
    (Document.stripped_dropPrefix hbold text).trans (Document.stripped_trimLeft _)
  obtain ⟨blanks, hblanks, hall⟩ :=
    Text.exists_trimRight (Text.trimLeft (Text.dropPrefix Document.bold text))
  rw [htext, hblanks, List.mem_append, List.mem_append]
  rintro (hmem | hmem | hmem)
  · exact not_isDecoration_colon (hdecoration _ hmem)
  · exact h hmem
  · exact absurd (hall _ hmem) (by decide)

/-- Bold marks do not stand between the label and its colon if the label with its colon occurs in
the line and the value has no colon. -/
theorem not_marked_of_colon_not_mem {label : Label} {decoration behind front rest : List Char}
    (hall : ∀ c ∈ decoration, Document.IsDecoration c) (hbehind : ':' ∉ behind) :
    decoration ++ (label.text.toList ++ (Document.bold ++ ':' :: behind)) ≠
      front ++ ((labelText label).toList ++ rest) := by
  intro hline
  obtain ⟨hlabel, hne, hstar⟩ : ':' ∉ label.text.toList ∧ label.text.toList ≠ [] ∧
      label.text.toList.getLast? ≠ some '*' := by
    cases label <;> decide
  have hmarked : ':' ∉ decoration ++ label.text.toList ++ Document.bold := by
    rw [List.mem_append, List.mem_append]
    rintro ((hmem | hmem) | hmem)
    · exact not_isDecoration_colon (hall _ hmem)
    · exact hlabel hmem
    · exact absurd hmem (by decide)
  -- the line has one colon, and what stands in front of it is a mark and the end of the label
  have hsplit : (labelText label).toList ++ rest = label.text.toList ++ ':' :: rest := by
    rw [labelText, String.toList_append, List.append_assoc]
    rfl
  have hcolon : decoration ++ label.text.toList ++ Document.bold ++ ':' :: behind =
      front ++ label.text.toList ++ ':' :: rest := by
    rw [hsplit] at hline
    simpa only [List.append_assoc] using hline
  obtain ⟨hfront, -, -⟩ := (List.append_cons_inj_of_notMem hmarked hbehind).mp hcolon
  have hbold : Document.bold ≠ [] := by decide
  have hlast := congrArg List.getLast? hfront
  rw [List.getLast?_append_of_ne_nil _ hbold, List.getLast?_append_of_ne_nil _ hne] at hlast
  exact hstar hlast.symm

/-- Where the value has no colon, it is what stands behind the label and its colon. -/
theorem trim_eq_value {document : String} {before after : List (List Char)}
    {line front rest value : List Char}
    (hcount : Text.count (labelText .functionName).toList document.toList = 1)
    (hlines : Text.lines document.toList = before ++ line :: after)
    (hline : line = front ++ ((labelText .functionName).toList ++ rest))
    (hclassify : Document.classifyLine line = some (.functionName, value)) (hcolon : ':' ∉ value) :
    Text.trim (Text.dropPrefix Document.bold rest) = value := by
  obtain ⟨marks, behind, hmarks, hundecorated, rfl⟩ :=
    Document.exists_rest_of_classifyLine hclassify
  obtain ⟨decoration, hdecorated, hall⟩ := Document.exists_decoration line
  rw [hundecorated] at hdecorated
  rcases hmarks with rfl | rfl
  · exact absurd (hdecorated.symm.trans hline)
      (not_marked_of_colon_not_mem hall (colon_not_mem_of_trim hcolon))
  · obtain ⟨start, back, htext, -⟩ := Text.exists_behind_of_lines hlines
    have hfound : document.toList =
        start ++ decoration ++ ((labelText .functionName).toList ++ (behind ++ back)) := by
      rw [htext, hdecorated, labelText, String.toList_append]
      simp only [List.append_assoc]
      rfl
    have hgiven : document.toList =
        start ++ front ++ ((labelText .functionName).toList ++ (rest ++ back)) := by
      rw [htext, hline]
      simp only [List.append_assoc]
    have hrest := Text.rest_eq_of_count_eq_one hcount hgiven hfound
    rw [List.append_cancel_right hrest]

/-! ## The whole -/

/-- **What the check of the function name goes by.** Let the label with its colon stand at one place
of the document, on a line that carries the label. The document is faulted if and only if the word
characters at the front of what follows are no identifier, where blanks and line ends are skipped.
What follows on the line is the value, unless this has a colon. So the check is right about every
value that is made of word characters. -/
theorem faultsFunctionName_iff {document : String} {before after : List (List Char)}
    {line front rest value : List Char}
    (hcount : Text.count (labelText .functionName).toList document.toList = 1)
    (hlines : Text.lines document.toList = before ++ line :: after)
    (hline : line = front ++ ((labelText .functionName).toList ++ rest))
    (hclassify : Document.classifyLine line = some (.functionName, value)) :
    (FaultsFunctionName document ↔ Text.isIdentifier
      ((Text.firstFilled (Text.dropPrefix Document.bold rest :: after)).takeWhile
        Text.isWordChar) = false) ∧
    (':' ∉ value → Text.trim (Text.dropPrefix Document.bold rest) = value) ∧
    (value ≠ [] → (∀ c ∈ value, Text.isWordChar c = true) →
      (FaultsFunctionName document ↔ Text.isIdentifier value = false)) := by
  obtain ⟨start, back, htext, hbehind⟩ := Text.exists_behind_of_lines hlines
  have hplace : document.toList =
      start ++ front ++ ((labelText .functionName).toList ++ (rest ++ back)) := by
    rw [htext, hline]
    simp only [List.append_assoc]
  have hbold : ∀ c ∈ back.head?, c ∉ Document.bold := by
    intro c hc
    rcases hbehind.head?_eq c hc with rfl | rfl <;> decide
  have hword : FaultsFunctionName document ↔ Text.isIdentifier
      ((Text.firstFilled (Text.dropPrefix Document.bold rest :: after)).takeWhile
        Text.isWordChar) = false := by
    rw [faultsFunctionName_iff_leadingWord hcount hplace, Text.dropPrefix_append hbold,
      leadingWord_append_of_behind hbehind]
  have hvalue : ':' ∉ value → Text.trim (Text.dropPrefix Document.bold rest) = value :=
    trim_eq_value hcount hlines hline hclassify
  refine ⟨hword, hvalue, ?_⟩
  intro hne hall
  have hcolon : ':' ∉ value := fun hmem => absurd (hall _ hmem) (by decide)
  have hfilled : (Text.firstFilled (Text.dropPrefix Document.bold rest :: after)).takeWhile
      Text.isWordChar = value := by
    rw [Text.firstFilled, hvalue hcolon, List.isEmpty_eq_false_iff.mpr hne,
      if_neg Bool.false_ne_true]
    exact List.takeWhile_eq_self_iff.mpr hall
  rw [hword, hfilled]

/-- A document with a line for the function name. -/
def documentNaming (name : String) : String :=
  "\n".intercalate ["Problem Name: \"N\"", "Function Name: " ++ name, "Input Structure:",
    "Input Field: a int", "Output Structure:", "Output Field: int"]

/-- One of two names is faulted, as it should be. -/
theorem faultsFunctionName_iff_named :
    FaultsFunctionName (documentNaming "2sum") ∧
      ¬ FaultsFunctionName (documentNaming "two_sum") := by
  -- both documents meet the conditions
  have hnamed : ∀ name ∈ ["2sum", "two_sum"],
      Text.count (labelText .functionName).toList (documentNaming name).toList = 1 ∧
      Text.lines (documentNaming name).toList =
        ["Problem Name: \"N\"".toList] ++ ("Function Name: " ++ name).toList ::
          ["Input Structure:".toList, "Input Field: a int".toList, "Output Structure:".toList,
            "Output Field: int".toList] ∧
      ("Function Name: " ++ name).toList =
        [] ++ ((labelText .functionName).toList ++ (' ' :: name.toList)) ∧
      Document.classifyLine ("Function Name: " ++ name).toList =
        some (.functionName, name.toList) ∧
      name.toList ≠ [] ∧ name.toList.all Text.isWordChar = true := by
    decide +kernel
  obtain ⟨hcount, hlines, hline, hclassify, hne, hall⟩ := hnamed "2sum" (by decide)
  obtain ⟨hcount', hlines', hline', hclassify', hne', hall'⟩ := hnamed "two_sum" (by decide)
  constructor
  · rw [(faultsFunctionName_iff hcount hlines hline hclassify).2.2 hne
      (List.all_eq_true.mp hall)]
    decide
  · rw [(faultsFunctionName_iff hcount' hlines' hline' hclassify').2.2 hne'
      (List.all_eq_true.mp hall')]
    decide

/-- The name stands on the only line with the label and its colon, it is no identifier, and the
document is not faulted. -/
def InvalidNotFaulted (name : String) : Prop :=
  Text.count (labelText .functionName).toList (documentNaming name).toList = 1 ∧
    (∃ line ∈ Text.lines (documentNaming name).toList,
      (labelText .functionName).toList <:+: line ∧
        Document.classifyLine line = some (.functionName, name.toList)) ∧
    Text.isIdentifier name.toList = false ∧ ¬ FaultsFunctionName (documentNaming name)

instance (name : String) : Decidable (InvalidNotFaulted name) := by
  unfold InvalidNotFaulted
  infer_instance

/-- **What the check misses.** A name that goes on behind an identifier is not faulted, and neither
is one that is not there, although none of them is an identifier. -/
theorem invalid_not_faulted :
    InvalidNotFaulted "two-sum" ∧ InvalidNotFaulted "two sum" ∧ InvalidNotFaulted "" := by
  decide +kernel

end Inspection

end StarterCode
