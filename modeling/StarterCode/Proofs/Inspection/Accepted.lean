import StarterCode.Inspection
import StarterCode.Proofs.Document.Decoration
import StarterCode.Proofs.Inspection.Findings
import StarterCode.Proofs.Problem.Hints

/-!
# What is found wrong with a document that can be read

The inspection and the reader look at one document in two ways. The reader goes by lines and takes
decoration off them; the inspection searches the whole text for a label with its colon, and for a
name behind it.

A label whose colon stands directly behind it is found by both, and what the reader takes for a name
is found behind it (`functionNameAt?_append`, `quotedNameAt?_append`). So there are few reasons to
find fault with a document that can be read, and `Excuse` lists them: bold marks between a label and
its colon, a problem name that begins with a quote, and the label of the function name in an earlier
line. Each of them does occur (`exists_finding_of_parse`).
-/

set_option autoImplicit false

namespace StarterCode

/-! ## Word characters -/

namespace Text

theorem isWordChar_of_isNameChar {c : Char} (h : isNameChar c = true) : isWordChar c = true := by
  have hsmall : c.toNat < 0x80 := by
    have hbounds := toNat_of_isNameChar h
    omega
  rw [isWordChar, if_pos hsmall]
  exact h

/-- No blank is a word character. -/
theorem isWordChar_of_isBlank {c : Char} (h : isBlank c = true) : isWordChar c = false := by
  rw [isWordChar]
  split
  · by_contra hname
    rw [Bool.not_eq_false] at hname
    have hblank : isBlank c = false := isBlank_of_isNameChar hname
    rw [h] at hblank
    cases hblank
  · next hlarge =>
    -- the blanks above ASCII lie between the ranges of the table
    have hblanks : ∀ n ∈ [0x85, 0xA0, 0x1680, 0x2000, 0x2001, 0x2002, 0x2003, 0x2004, 0x2005,
        0x2006, 0x2007, 0x2008, 0x2009, 0x200A, 0x2028, 0x2029, 0x202F, 0x205F, 0x3000],
        (wordRanges.any fun range => range.1 ≤ n && n ≤ range.2) = false := by
      decide +kernel
    apply hblanks
    simp only [isBlank, Bool.or_eq_true, Bool.and_eq_true, decide_eq_true_eq, beq_iff_eq] at h
    simp only [List.mem_cons, List.not_mem_nil, or_false]
    omega

end Text

namespace Inspection

/-! ## Behind a label -/

theorem not_mem_labelText (label : Label) :
    '\n' ∉ (labelText label).toList ∧ '\r' ∉ (labelText label).toList := by
  cases label <;> decide

/-- No label begins with decoration. -/
theorem exists_labelText (label : Label) :
    ∃ c rest, (labelText label).toList = c :: rest ∧ ¬ Document.IsDecoration c := by
  cases label
  all_goals
    refine ⟨_, _, rfl, ?_⟩
    rw [Document.IsDecoration]
    decide

theorem behindLabel?_append (label : Label) (rest : List Char) :
    behindLabel? label ((labelText label).toList ++ rest) =
      some (Text.trimLeft (Text.dropPrefix Document.bold rest)) := by
  have hlabel : (labelText label).toList.isPrefixOf? ((labelText label).toList ++ rest) =
      some rest :=
    List.isPrefixOf?_eq_some_iff_append_eq.mpr rfl
  rw [behindLabel?, hlabel]
  rfl

/-- What is read behind a label is a value with blanks behind it. -/
theorem exists_prefix_of_behindLabel? {label : Label} {text value : List Char}
    (h : behindLabel? label text = some value) : (labelText label).toList <+: text := by
  obtain ⟨rest, hrest, -⟩ := Option.bind_eq_some_iff.mp h
  exact ⟨rest, List.isPrefixOf?_eq_some_iff_append_eq.mp hrest⟩

/-- The value of a line stands behind its label, and a blank or nothing behind the value. -/
theorem exists_behind_value {rest back : List Char} (hback : ∀ c ∈ back.head?, c = '\n' ∨ c = '\r')
    (hne : Text.trim (Text.dropPrefix Document.bold rest) ≠ []) :
    ∃ behind, Text.trimLeft (Text.dropPrefix Document.bold (rest ++ back)) =
        Text.trim (Text.dropPrefix Document.bold rest) ++ behind ∧
      ∀ c ∈ behind.head?, Text.isBlank c = true := by
  have hbold : ∀ c ∈ back.head?, c ∉ Document.bold := by
    intro c hc
    rcases hback c hc with rfl | rfl
    · decide
    · decide
  obtain ⟨blanks, hblanks, hall⟩ :=
    Text.exists_trimRight (Text.trimLeft (Text.dropPrefix Document.bold rest))
  have hleft : (Text.trimLeft (Text.dropPrefix Document.bold rest)).isEmpty = false := by
    rw [List.isEmpty_eq_false_iff]
    intro hnil
    rw [Text.trim, hnil] at hne
    exact hne rfl
  refine ⟨blanks ++ back, ?_, ?_⟩
  · rw [Text.dropPrefix_append hbold, Text.trimLeft, List.dropWhile_append]
    change (if (Text.trimLeft _).isEmpty = true then _ else Text.trimLeft _ ++ back) = _
    rw [hleft, if_neg Bool.false_ne_true, Text.trim, ← List.append_assoc, ← hblanks]
  · intro c hc
    cases blanks with
    | nil =>
      rcases hback c hc with rfl | rfl
      · decide
      · decide
    | cons d blanks =>
      rw [← Option.some.inj hc]
      exact hall d List.mem_cons_self

/-- An identifier on the line of the function name is found behind the label. -/
theorem functionNameAt?_append {rest back name : List Char}
    (hback : ∀ c ∈ back.head?, c = '\n' ∨ c = '\r')
    (hname : Text.trim (Text.dropPrefix Document.bold rest) = name)
    (hidentifier : Text.isIdentifier name = true) :
    functionNameAt? ((labelText .functionName).toList ++ (rest ++ back)) = some name := by
  subst hname
  have hne := Text.ne_nil_of_isIdentifier hidentifier
  obtain ⟨behind, hvalue, hbehind⟩ := exists_behind_value hback hne
  have hword : ∀ c ∈ Text.trim (Text.dropPrefix Document.bold rest), Text.isWordChar c = true :=
    fun c hc =>
      Text.isWordChar_of_isNameChar (Text.all_isNameChar_of_isIdentifier hidentifier c hc)
  have hstop : behind.takeWhile Text.isWordChar = [] := by
    cases behind with
    | nil => rfl
    | cons c behind =>
      rw [List.takeWhile_cons, Text.isWordChar_of_isBlank (hbehind c rfl)]
      rfl
  rw [functionNameAt?, behindLabel?_append, Option.bind_eq_bind, Option.bind_some, hvalue,
    List.takeWhile_append_of_pos hword, hstop, List.append_nil]
  exact if_neg (by simpa using hne)

/-- A quoted name on the line of the problem name is found behind the label, unless it begins with
one more quote. -/
theorem quotedNameAt?_append {rest back name : List Char}
    (hback : ∀ c ∈ back.head?, c = '\n' ∨ c = '\r')
    (hname : Text.trim (Text.dropPrefix Document.bold rest) = '"' :: (name ++ ['"']))
    (hne : name ≠ []) (hquote : name.head? ≠ some '"') :
    (quotedNameAt? ((labelText .problemName).toList ++ (rest ++ back))).isSome = true := by
  have hvalued : Text.trim (Text.dropPrefix Document.bold rest) ≠ [] := by
    rw [hname]
    exact List.cons_ne_nil _ _
  obtain ⟨behind, hvalue, -⟩ := exists_behind_value hback hvalued
  obtain ⟨c, name, rfl⟩ := List.exists_cons_of_ne_nil hne
  have hfirst : (c != '"') = true := by
    rw [bne_iff_ne]
    rintro rfl
    exact hquote rfl
  rw [quotedNameAt?, behindLabel?_append, Option.bind_eq_bind, Option.bind_some, hvalue, hname]
  simp [hfirst]

/-! ## What can be wrong -/

/-- The labels of names and headings that a document needs. -/
def headings : List Label := [.problemName, .functionName, .inputStructure, .outputStructure]

/-- The labels of fields that a document needs. -/
def fields : List Label := [.inputField, .outputField]

/-- A label stands on a line, and on every such line there are bold marks between the label and its
colon. -/
def OnlyMarked (document : String) (label : Label) : Prop :=
  label ∈ (Document.labelledLines document).map (·.label) ∧
    ∀ line ∈ Text.lines document.toList, Document.Carries label line →
      Document.MarkedColon label line

instance (document : String) (label : Label) : Decidable (OnlyMarked document label) := by
  unfold OnlyMarked
  infer_instance

/-- In a line in front of one that carries the label, the label and its colon occur. -/
def OccursEarlier (document : String) (label : Label) : Prop :=
  ∃ n < (Text.lines document.toList).length,
    (∃ line ∈ (Text.lines document.toList)[n]?, Document.Carries label line) ∧
    ∃ earlier ∈ (Text.lines document.toList).take n, (labelText label).toList <:+: earlier

instance (document : String) (label : Label) : Decidable (OccursEarlier document label) := by
  unfold OccursEarlier
  infer_instance

/-- Why there may be a finding about a document that can be read and declares a problem with the
given name. -/
inductive Excuse (document name : String) : Finding → Prop where
  | missingField (label : Label) (hlabel : label ∈ headings)
    (hmarked : OnlyMarked document label) : Excuse document name (.missingField (labelText label))
  | missingDefinitions (label : Label) (hlabel : label ∈ fields)
    (hmarked : OnlyMarked document label) : Excuse document name (.missingDefinitions label.text)
  | unquotedProblemName
    (hname : OnlyMarked document .problemName ∨ name.toList.head? = some '"') :
    Excuse document name .unquotedProblemName
  | noFunctionName (hmarked : OnlyMarked document .functionName) :
    Excuse document name .noFunctionName
  | invalidFunctionName (word : String)
    (hword : OnlyMarked document .functionName ∨ OccursEarlier document .functionName) :
    Excuse document name (.invalidFunctionName word)

/-- A label that is carried otherwise than with marks has a line that begins with the label and its
colon, up to decoration. -/
theorem exists_line_of_not_onlyMarked {document : String} {label : Label}
    (hmem : label ∈ (Document.labelledLines document).map (·.label))
    (h : ¬ OnlyMarked document label) :
    ∃ before line after decoration rest, Text.lines document.toList = before ++ line :: after ∧
      line = decoration ++ ((labelText label).toList ++ rest) ∧
      (∀ c ∈ decoration, Document.IsDecoration c) ∧
      Document.classifyLine line =
        some (label, Text.trim (Text.dropPrefix Document.bold rest)) := by
  rw [OnlyMarked, not_and] at h
  have h := h hmem
  push Not at h
  obtain ⟨line, hline, hcarries, hmarked⟩ := h
  obtain ⟨value, hclassify⟩ := Document.carries_iff.mp hcarries
  obtain ⟨before, after, hlines⟩ := List.append_of_mem hline
  obtain ⟨rest, hrest, hvalue⟩ := Document.exists_of_classifyLine hclassify
  obtain ⟨decoration, hdecorated, hall⟩ := Document.exists_decoration line
  rw [hrest.resolve_left hmarked] at hdecorated
  exact ⟨before, line, after, decoration, rest, hlines, hdecorated, hall, hvalue ▸ hclassify⟩

/-- Where the label is carried without marks, the label and its colon occur in the text. -/
theorem occurs_of_not_onlyMarked {document : String} {label : Label}
    (hmem : label ∈ (Document.labelledLines document).map (·.label))
    (h : ¬ OnlyMarked document label) :
    Text.occurs (labelText label).toList document.toList = true := by
  obtain ⟨before, line, after, decoration, rest, hlines, hline, -⟩ :=
    exists_line_of_not_onlyMarked hmem h
  obtain ⟨front, back, htext, -⟩ := Text.exists_place_of_lines hlines
  rw [Text.occurs_iff]
  refine ⟨front ++ decoration, rest ++ back, ?_⟩
  rw [htext, hline]
  simp only [List.append_assoc]

theorem mem_labels_of_mem_valuesOf {document value : String} {label : Label}
    (h : value ∈ Document.valuesOf (Document.labelledLines document) label) :
    label ∈ (Document.labelledLines document).map (·.label) := by
  obtain ⟨line, hline, -⟩ := List.mem_map.mp h
  obtain ⟨hmem, hlabel⟩ := List.mem_filter.mp hline
  exact List.mem_map.mpr ⟨line, hmem, beq_iff_eq.mp hlabel⟩

/-- The only value behind a label is that of every line that carries the label. -/
theorem value_of_classifyLine {document value : String} {label : Label} {line found : List Char}
    (hvalues : Document.valuesOf (Document.labelledLines document) label = [value])
    (hline : line ∈ Text.lines document.toList)
    (hclassify : Document.classifyLine line = some (label, found)) : found = value.toList := by
  have hmem : String.ofList found ∈ Document.valuesOf (Document.labelledLines document) label :=
    Document.mem_valuesOf_iff.mpr ⟨line, hline, by rw [String.toList_ofList, hclassify]⟩
  rw [hvalues, List.mem_singleton] at hmem
  rw [← hmem, String.toList_ofList]

/-! ## The two names -/

/-- The quoted name is found where the label is carried without marks. -/
theorem isSome_quotedNameAt? {document name : String}
    (hvalues : Document.valuesOf (Document.labelledLines document) .problemName =
      ["\"" ++ name ++ "\""])
    (hname : name.toList ≠ []) (hquote : name.toList.head? ≠ some '"')
    (hmarked : ¬ OnlyMarked document .problemName) :
    (Text.findFrom? quotedNameAt? document.toList).isSome = true := by
  have hlabel := mem_labels_of_mem_valuesOf (hvalues ▸ List.mem_cons_self)
  obtain ⟨before, line, after, decoration, rest, hlines, hline, -, hclassify⟩ :=
    exists_line_of_not_onlyMarked hlabel hmarked
  obtain ⟨front, back, htext, hback, -⟩ := Text.exists_place_of_lines hlines
  have hvalue := value_of_classifyLine hvalues (by rw [hlines]; simp) hclassify
  rw [String.toList_append, String.toList_append] at hvalue
  rw [Text.isSome_findFrom?]
  refine ⟨front ++ decoration, (labelText .problemName).toList ++ (rest ++ back), ?_,
    quotedNameAt?_append hback hvalue hname hquote⟩
  rw [htext, hline]
  simp only [List.append_assoc]

/-- A word does not reach beyond a character that is not in it. -/
theorem prefix_of_prefix_append {c : Char} {word front rest : List Char}
    (hlast : front.getLast? = some c) (hc : c ∉ word) (h : word <+: front ++ rest) :
    word <+: front := by
  rcases List.prefix_or_prefix_of_prefix h (List.prefix_append front rest) with h | h
  · exact h
  · exact absurd (h.subset (List.mem_of_getLast? hlast)) hc

/-- Of two positions in a text, the later one is reached from the earlier one. -/
theorem exists_middle {front rest front' rest' : List Char}
    (htext : front ++ rest = front' ++ rest') (hlength : front'.length < front.length) :
    ∃ middle, middle ≠ [] ∧ front = front' ++ middle ∧ rest' = middle ++ rest := by
  rcases List.append_eq_append_iff.mp htext with ⟨middle, hfront, -⟩ | ⟨middle, hfront, hrest⟩
  · rw [hfront, List.length_append] at hlength
    omega
  · refine ⟨middle, ?_, hfront, hrest⟩
    rintro rfl
    rw [hfront, List.append_nil] at hlength
    omega

theorem not_prefix_of_decoration {label : Label} {decoration rest : List Char}
    (hne : decoration ≠ []) (hall : ∀ c ∈ decoration, Document.IsDecoration c) :
    ¬ (labelText label).toList <+: decoration ++ rest := by
  intro h
  obtain ⟨first, others, hlabel, hfirst⟩ := exists_labelText label
  obtain ⟨c, decoration, rfl⟩ := List.exists_cons_of_ne_nil hne
  rw [hlabel, List.cons_append, List.cons_prefix_cons] at h
  exact hfirst (h.1 ▸ hall c List.mem_cons_self)

/-- A label at an earlier position than that in its line is in front of the line. -/
theorem infix_of_prefix {label : Label} {front decoration rest front' rest' : List Char}
    (hall : ∀ c ∈ decoration, Document.IsDecoration c) (hfeed : ∀ c ∈ front.getLast?, c = '\n')
    (htext : front ++ decoration ++ rest = front' ++ rest')
    (hlength : front'.length < (front ++ decoration).length)
    (hlabel : (labelText label).toList <+: rest') : (labelText label).toList <:+: front := by
  obtain ⟨middle, hne, hfront, rfl⟩ := exists_middle htext hlength
  rcases List.append_eq_append_iff.mp hfront with ⟨inner, -, rfl⟩ | ⟨inner, rfl, rfl⟩
  · have hmiddle : ∀ c ∈ middle, Document.IsDecoration c := fun c hc =>
      hall c (List.mem_append_right _ hc)
    exact absurd hlabel (not_prefix_of_decoration hne hmiddle)
  · by_cases hinner : inner = []
    · rw [hinner, List.nil_append] at hne hlabel
      exact absurd hlabel (not_prefix_of_decoration hne hall)
    · -- the label begins in front of the line, so it ends before the line feed in between
      have hlast : inner.getLast? = some '\n' := by
        have hsome := List.getLast?_eq_some_getLast hinner
        rw [hsome, hfeed (inner.getLast hinner) (by rw [List.getLast?_append, hsome]; rfl)]
      rw [List.append_assoc] at hlabel
      have hword := prefix_of_prefix_append hlast (not_mem_labelText label).1 hlabel
      exact hword.isInfix.trans (List.suffix_append _ _).isInfix

/-- Where the label of the function name is carried without marks, a name is found, and it is the
one that is declared unless the label occurs earlier. -/
theorem findFrom?_functionNameAt? {document name : String}
    (hvalues : Document.valuesOf (Document.labelledLines document) .functionName = [name])
    (hidentifier : Text.isIdentifier name.toList = true)
    (hmarked : ¬ OnlyMarked document .functionName) :
    ∃ word, Text.findFrom? functionNameAt? document.toList = some word ∧
      (word = name.toList ∨ OccursEarlier document .functionName) := by
  have hlabel := mem_labels_of_mem_valuesOf (hvalues ▸ List.mem_cons_self)
  obtain ⟨before, line, after, decoration, rest, hlines, hline, hall, hclassify⟩ :=
    exists_line_of_not_onlyMarked hlabel hmarked
  obtain ⟨front, back, htext, hback, hfeed, hearlier⟩ := Text.exists_place_of_lines hlines
  have hvalue := value_of_classifyLine hvalues (by rw [hlines]; simp) hclassify
  have hread := functionNameAt?_append hback hvalue hidentifier
  have hplace : document.toList =
      front ++ decoration ++ ((labelText .functionName).toList ++ (rest ++ back)) := by
    rw [htext, hline]
    simp only [List.append_assoc]
  have hsome : (Text.findFrom? functionNameAt? document.toList).isSome = true :=
    Text.isSome_findFrom?.mpr ⟨_, _, hplace, by rw [hread]; rfl⟩
  obtain ⟨word, hword⟩ := Option.isSome_iff_exists.mp hsome
  refine ⟨word, hword, ?_⟩
  obtain ⟨front', rest', htext', hread', hfirst⟩ := Text.exists_of_findFrom?_eq_some hword
  rcases Nat.lt_trichotomy front'.length (front ++ decoration).length with hlt | heq | hgt
  · obtain ⟨behind, hbehind, -⟩ := Option.bind_eq_some_iff.mp hread'
    have hinfix := infix_of_prefix hall hfeed (hplace.symm.trans htext') hlt
      (exists_prefix_of_behindLabel? hbehind)
    obtain ⟨hnofeed, hnoreturn⟩ := not_mem_labelText .functionName
    obtain ⟨earlier, hmem, hearlier⟩ := hearlier _ (by decide) hnofeed hnoreturn hinfix
    refine .inr ⟨before.length, ?_, ⟨line, ?_, Document.carries_iff.mpr ⟨_, hclassify⟩⟩,
      earlier, ?_, hearlier⟩
    · rw [hlines]
      simp
    · rw [hlines]
      simp
    · rw [hlines, List.take_left]
      exact hmem
  · obtain ⟨-, rfl⟩ := List.append_inj (hplace.symm.trans htext') heq.symm
    rw [hread, Option.some.injEq] at hread'
    exact .inl hread'.symm
  · rw [hfirst _ _ hplace hgt] at hread
    cases hread

/-! ## All findings -/

/-- A problem that has been read has a line for its names, its parameters and what it returns. -/
theorem mem_labels_of_parse {document : String} {laidOut : LaidOutProblem}
    (h : LaidOutProblem.parse document = .ok laidOut) :
    ∀ label ∈ [Label.problemName, .functionName, .inputField, .outputField],
      label ∈ (Document.labelledLines document).map (·.label) := by
  have hdeclared := LaidOutProblem.parse_eq_ok_iff.mp h
  have hinput : Document.valuesOf (Document.labelledLines document) .inputField ≠ [] := by
    intro hnil
    have hparameters := hdeclared.problem.parameters
    rw [hnil, List.forall₂_nil_left_iff] at hparameters
    exact hdeclared.parameters_ne_nil hparameters
  obtain ⟨_, hvalue⟩ := List.exists_mem_of_ne_nil _ hinput
  obtain ⟨_, houtput, -⟩ := hdeclared.problem.output
  simp only [List.forall_mem_cons]
  exact ⟨mem_labels_of_mem_valuesOf (hdeclared.problem.name_eq ▸ List.mem_cons_self),
    mem_labels_of_mem_valuesOf (hdeclared.problem.functionName_eq ▸ List.mem_cons_self),
    mem_labels_of_mem_valuesOf hvalue, mem_labels_of_mem_valuesOf (houtput ▸ List.mem_cons_self),
    fun _ h => absurd h List.not_mem_nil⟩

/-- The function name has no other excuse. -/
theorem excuse_of_mem_functionFindings {document problemName name : String}
    (hvalues : Document.valuesOf (Document.labelledLines document) .functionName = [name])
    (hidentifier : Text.isIdentifier name.toList = true) {finding : Finding}
    (h : finding ∈ functionFindings document.toList) : Excuse document problemName finding := by
  rw [functionFindings] at h
  by_cases hmarked : OnlyMarked document .functionName
  · split at h
    · rw [List.mem_singleton.mp h]
      exact .noFunctionName hmarked
    · next word hword =>
      rw [(mem_whenever.mp h).2]
      exact .invalidFunctionName _ (.inl hmarked)
  · obtain ⟨word, hword, hsame⟩ := findFrom?_functionNameAt? hvalues hidentifier hmarked
    rw [hword] at h
    obtain ⟨hinvalid, rfl⟩ := mem_whenever.mp h
    refine .invalidFunctionName _ (.inr (hsame.resolve_left ?_))
    rintro rfl
    rw [hidentifier] at hinvalid
    cases hinvalid

/-- **What is found wrong with a document that can be read.** Where the headings of the inputs and
of the output are there, every finding has one of the excuses. Without any of them there is no
finding. -/
theorem excuse_of_mem_documentFindings {document : String} {laidOut : LaidOutProblem}
    (hparse : LaidOutProblem.parse document = .ok laidOut)
    (hinput : ∃ line ∈ Document.labelledLines document, line.label = .inputStructure)
    (houtput : ∃ line ∈ Document.labelledLines document, line.label = .outputStructure) :
    (∀ finding ∈ documentFindings document, Excuse document laidOut.problem.name finding) ∧
    ((∀ label ∈ headings ++ fields, ¬ OnlyMarked document label) →
      laidOut.problem.name.toList.head? ≠ some '"' → ¬ OccursEarlier document .functionName →
      documentFindings document = []) := by
  have hdeclared := LaidOutProblem.parse_eq_ok_iff.mp hparse
  have hread := mem_labels_of_parse hparse
  -- a label of a heading or of a field stands on a line
  have hlabels : ∀ label ∈ headings ++ fields,
      label ∈ (Document.labelledLines document).map (·.label) := by
    simp only [headings, fields, List.cons_append, List.nil_append, List.forall_mem_cons]
      at hread ⊢
    exact ⟨hread.1, hread.2.1, List.mem_map.mpr hinput, List.mem_map.mpr houtput, hread.2.2⟩
  have hmissing : ∀ label ∈ headings ++ fields,
      (!Text.occurs (labelText label).toList document.toList) = true →
        OnlyMarked document label := by
    intro label hlabel hnone
    by_contra hmarked
    rw [occurs_of_not_onlyMarked (hlabels label hlabel) hmarked] at hnone
    cases hnone
  have hexcuse : ∀ finding ∈ documentFindings document,
      Excuse document laidOut.problem.name finding := by
    intro finding hfinding
    simp only [documentFindings, List.mem_append, List.mem_flatMap, mem_whenever] at hfinding
    rcases hfinding with
      ((⟨label, hlabel, hnone, rfl⟩ | ⟨label, hlabel, hnone, rfl⟩) | ⟨hnone, rfl⟩) | hfinding
    · exact .missingField label hlabel (hmissing label (List.mem_append_left _ hlabel) hnone)
    · exact .missingDefinitions label hlabel
        (hmissing label (List.mem_append_right _ hlabel) hnone)
    · refine .unquotedProblemName ?_
      by_contra hnot
      rw [not_or] at hnot
      obtain ⟨c, hc, -⟩ := hdeclared.problem.name_not_blank
      have hsome := isSome_quotedNameAt? hdeclared.problem.name_eq (List.ne_nil_of_mem hc)
        hnot.2 hnot.1
      rw [Option.isNone_iff_eq_none] at hnone
      rw [hnone] at hsome
      cases hsome
    · exact excuse_of_mem_functionFindings hdeclared.problem.functionName_eq
        hdeclared.problem.isIdentifier_functionName hfinding
  refine ⟨hexcuse, ?_⟩
  intro hmarked hquote hearlier
  rw [List.eq_nil_iff_forall_not_mem]
  intro finding hfinding
  cases hexcuse finding hfinding with
  | missingField label hlabel h => exact hmarked label (List.mem_append_left _ hlabel) h
  | missingDefinitions label hlabel h => exact hmarked label (List.mem_append_right _ hlabel) h
  | unquotedProblemName h => exact h.elim (hmarked _ (by decide)) hquote
  | noFunctionName h => exact hmarked _ (by decide) h
  | invalidFunctionName word h => exact h.elim (hmarked _ (by decide)) hearlier

/-- A document with every decoration that does no harm. -/
def decoratedDocument : String :=
  "\n".intercalate ["- **Problem Name:** \"D\"", "## Function Name: d", "# Input Structure:",
    "* Input Field: a int", "# **Output Structure:**", "  Output Field: int"]

theorem excuse_of_mem_documentFindings_decorated :
    (∃ laidOut, LaidOutProblem.parse decoratedDocument = .ok laidOut) ∧
      (∃ line ∈ Document.labelledLines decoratedDocument, line.label = .inputStructure) ∧
      (∃ line ∈ Document.labelledLines decoratedDocument, line.label = .outputStructure) ∧
      documentFindings decoratedDocument = [] := by
  have hchecks : (LaidOutProblem.parse decoratedDocument).toOption.map (·.problem.name) =
        some "D" ∧
      (∃ line ∈ Document.labelledLines decoratedDocument, line.label = .inputStructure) ∧
      (∃ line ∈ Document.labelledLines decoratedDocument, line.label = .outputStructure) ∧
      (∀ label ∈ headings ++ fields, ¬ OnlyMarked decoratedDocument label) ∧
      ¬ OccursEarlier decoratedDocument .functionName := by
    decide +kernel
  obtain ⟨hread, hinput, houtput, hmarked, hearlier⟩ := hchecks
  obtain ⟨laidOut, hlaidOut, hname⟩ := Option.map_eq_some_iff.mp hread
  have hparse := eq_ok_of_toOption hlaidOut
  have hnone := (excuse_of_mem_documentFindings hparse hinput houtput).2 hmarked
    (by rw [hname]; decide) hearlier
  exact ⟨⟨laidOut, hparse⟩, hinput, houtput, hnone⟩

/-- A document with bold marks between a label and its colon. -/
def markedDocument : String :=
  "\n".intercalate ["**Problem Name**: \"M\"", "Function Name: m", "Input Structure:",
    "Input Field: a int", "Output Structure:", "Output Field: int"]

/-- A document with a quote at the front of the problem name. -/
def quotedDocument : String :=
  "\n".intercalate ["Problem Name: \"\"Q\"", "Function Name: q", "Input Structure:",
    "Input Field: a int", "Output Structure:", "Output Field: int"]

/-- A document that speaks of the function name before it declares it. -/
def proseDocument : String :=
  "\n".intercalate ["Problem Name: \"P\"", "The Function Name: 1st of all a name.",
    "Function Name: p", "Input Structure:", "Input Field: a int", "Output Structure:",
    "Output Field: int"]

/-- The document is read as a problem and has both headings, and yet there is a finding that is an
error. -/
def FoundThoughRead (document : String) : Prop :=
  (∃ laidOut, LaidOutProblem.parse document = .ok laidOut) ∧
    (∃ line ∈ Document.labelledLines document, line.label = .inputStructure) ∧
    (∃ line ∈ Document.labelledLines document, line.label = .outputStructure) ∧
    ∃ finding ∈ documentFindings document, finding.severity = .error

theorem foundThoughRead_of_checks {document : String}
    (h : (LaidOutProblem.parse document).toOption.isSome = true ∧
      (∃ line ∈ Document.labelledLines document, line.label = .inputStructure) ∧
      (∃ line ∈ Document.labelledLines document, line.label = .outputStructure) ∧
      ∃ finding ∈ documentFindings document, finding.severity = .error) :
    FoundThoughRead document := by
  obtain ⟨hread, hlines⟩ := h
  obtain ⟨laidOut, hlaidOut⟩ := Option.isSome_iff_exists.mp hread
  exact ⟨⟨laidOut, eq_ok_of_toOption hlaidOut⟩, hlines⟩

/-- **Each excuse is needed.** There is a document for each of the three reasons. -/
theorem exists_finding_of_parse :
    FoundThoughRead markedDocument ∧ FoundThoughRead quotedDocument ∧
      FoundThoughRead proseDocument := by
  refine ⟨foundThoughRead_of_checks ?_, foundThoughRead_of_checks ?_,
    foundThoughRead_of_checks ?_⟩
  all_goals decide +kernel

end Inspection

end StarterCode
