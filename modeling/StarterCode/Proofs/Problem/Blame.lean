import StarterCode.Proofs.Problem.Declared

/-!
# Where errors are

An error of a document names a label and, unless something is absent, a line. Every reader passes
both on by hand, so it has to be seen of each reader that it names the line it has read, and of each
chain of readers that the line was one of the document.

Two notions carry this. A line is blamed by an error that has its number and its label
(`LabelledLine.Blamed`); this is what is shown of the readers of one line. An error is about a label
among some lines (`ParseError.About`) if it blames one of them that has the label, or blames none
and none has it; this is what is shown of the chains. The second half of it holds for two kinds of
error. A line that is needed is missing, or a program has no parameter, and an empty list of
parameters comes from no line.

In the end the numbers are looked up in the text (`ParseError.PlacedIn`).
-/

set_option autoImplicit false

namespace StarterCode

/-! ## Blame -/

/-- The error is about this line. -/
structure LabelledLine.Blamed (line : LabelledLine) (error : ParseError) : Prop where
  line_eq : error.line = some line.line
  field_eq : error.field = line.label.text

/-- The error is about lines with this label: about one of them, or about their absence. -/
structure ParseError.About (error : ParseError) (lines : List LabelledLine) (label : Label) :
    Prop where
  field_eq : error.field = label.text
  place : (∃ line ∈ lines, line.label = label ∧ error.line = some line.line) ∨
    error.line = none ∧ ∀ line ∈ lines, line.label ≠ label

theorem LabelledLine.Blamed.of_fail {α : Type} {line : LabelledLine} {complaint : Complaint}
    {error : ParseError} (h : (line.fail complaint : Except ParseError α) = .error error) :
    line.Blamed error := by
  cases h
  exact ⟨rfl, rfl⟩

theorem LabelledLine.Blamed.about {line : LabelledLine} {lines : List LabelledLine} {label : Label}
    {error : ParseError} (h : line.Blamed error)
    (hline : line ∈ lines.filter (·.label == label)) : error.About lines label := by
  have hmem : line ∈ lines := List.mem_of_mem_filter hline
  have hlabel : line.label = label := beq_iff_eq.mp (List.mem_filter.mp hline).2
  refine ⟨?_, .inl ⟨line, hmem, hlabel, h.line_eq⟩⟩
  rw [h.field_eq, hlabel]

/-- Of several lines with one label, the second is the one that is too many. -/
theorem LabelledLine.Blamed.about_second {first second : LabelledLine}
    {lines rest : List LabelledLine} {label : Label} {error : ParseError} (h : second.Blamed error)
    (hlines : lines.filter (·.label == label) = first :: second :: rest) :
    error.About lines label := by
  apply h.about
  rw [hlines]
  exact List.mem_cons_of_mem _ List.mem_cons_self

theorem Label.about_of_fail {α : Type} {label : Label} {lines : List LabelledLine}
    {complaint : Complaint} {error : ParseError}
    (h : (label.fail complaint : Except ParseError α) = .error error)
    (hnone : lines.filter (·.label == label) = []) : error.About lines label := by
  cases h
  refine ⟨rfl, .inr ⟨rfl, ?_⟩⟩
  intro line hline hlabel
  have hmem : line ∈ lines.filter (·.label == label) :=
    List.mem_filter.mpr ⟨hline, beq_iff_eq.mpr hlabel⟩
  rw [hnone] at hmem
  cases hmem

namespace Problem

/-! ## Readers of one line -/

section Line

variable {line : LabelledLine} {error : ParseError}

theorem blamed_of_readName (h : readName line = .error error) : line.Blamed error := by
  unfold readName at h
  split at h
  · exact .of_fail h
  · split at h
    · exact .of_fail h
    · cases h

theorem blamed_of_readFunctionName (h : readFunctionName line = .error error) :
    line.Blamed error := by
  unfold readFunctionName at h
  split at h
  · exact .of_fail h
  · split at h
    · cases h
    · exact .of_fail h

theorem blamed_of_readFieldType {source : List Char}
    (h : readFieldType source line.line line.label.text = .error error) : line.Blamed error := by
  unfold readFieldType at h
  split at h
  · cases h
  · cases h
    exact ⟨rfl, rfl⟩

theorem blamed_of_readParameter {order : Nat} (h : readParameter order line = .error error) :
    line.Blamed error := by
  unfold readParameter at h
  simp only at h
  split at h
  · exact .of_fail h
  split at h
  · exact .of_fail h
  split at h
  · exact .of_fail h
  rcases bind_eq_error.mp h with htype | ⟨type, -, h⟩
  · exact blamed_of_readFieldType htype
  · cases h

theorem blamed_of_readOutput (h : readOutput line = .error error) : line.Blamed error := by
  simp only [readOutput] at h
  split at h
  · cases h
  split at h
  · exact .of_fail h
  rcases bind_eq_error.mp h with htype | ⟨type, -, h⟩
  · exact blamed_of_readFieldType htype
  · cases h

theorem blamed_of_outputNameFor {taken : List String} {declared : Option String}
    (h : outputNameFor line taken declared = .error error) : line.Blamed error := by
  cases declared with
  | none => cases h
  | some name =>
    rw [outputNameFor] at h
    by_cases htaken : taken.contains name = true
    · rw [if_pos htaken] at h
      exact .of_fail h
    · rw [if_neg htaken] at h
      cases h

end Line

/-! ## Readers of several lines -/

section Lines

variable {lines : List LabelledLine} {error : ParseError}

theorem mem_of_onlyLine {label : Label} {line : LabelledLine}
    (h : onlyLine label lines = .ok line) : line ∈ lines.filter (·.label == label) := by
  rw [onlyLine_eq_ok.mp h]
  exact List.mem_singleton_self line

theorem about_of_onlyLine {label : Label} (h : onlyLine label lines = .error error) :
    error.About lines label := by
  unfold onlyLine at h
  split at h
  · next hnone => exact Label.about_of_fail h hnone
  · cases h
  · next first second rest hmore =>
    have hblamed : second.Blamed error := .of_fail h
    exact hblamed.about_second hmore

/-- Reading the parameters fails over one of their lines. By induction on the lines: the first line
fails, or its name is taken, or one of the others fails. -/
theorem blamed_of_readParametersAfter {earlier : List Parameter}
    (h : readParametersAfter earlier lines = .error error) :
    ∃ line ∈ lines, line.Blamed error := by
  induction lines generalizing earlier with
  | nil => cases h
  | cons line rest ih =>
    rcases bind_eq_error.mp h with hline | ⟨parameter, -, h⟩
    · exact ⟨line, List.mem_cons_self, blamed_of_readParameter hline⟩
    by_cases htaken : earlier.any (·.name == parameter.name) = true
    · rw [if_pos htaken] at h
      exact ⟨line, List.mem_cons_self, .of_fail h⟩
    · rw [if_neg htaken] at h
      obtain ⟨other, hother, hblamed⟩ := ih h
      exact ⟨other, List.mem_cons_of_mem _ hother, hblamed⟩

theorem about_of_readNames (h : readNames lines = .error error) :
    error.About lines .problemName ∨ error.About lines .functionName := by
  rcases bind_eq_error.mp h with h | ⟨nameLine, hnameLine, h⟩
  · exact .inl (about_of_onlyLine h)
  rcases bind_eq_error.mp h with h | ⟨name, -, h⟩
  · exact .inl ((blamed_of_readName h).about (mem_of_onlyLine hnameLine))
  rcases bind_eq_error.mp h with h | ⟨functionLine, hfunctionLine, h⟩
  · exact .inr (about_of_onlyLine h)
  rcases bind_eq_error.mp h with h | ⟨functionName, -, h⟩
  · exact .inr ((blamed_of_readFunctionName h).about (mem_of_onlyLine hfunctionLine))
  · cases h

theorem about_of_readReturned {names : String × String} {parameters : List Parameter}
    (h : readReturned lines names parameters = .error error) :
    error.About lines .outputField := by
  rcases bind_eq_error.mp h with h | ⟨line, hline, h⟩
  · exact about_of_onlyLine h
  have hmem := mem_of_onlyLine hline
  rcases bind_eq_error.mp h with h | ⟨_, -, h⟩
  · exact (blamed_of_readOutput h).about hmem
  rcases bind_eq_error.mp h with h | ⟨_, -, h⟩
  · exact (blamed_of_outputNameFor h).about hmem
  · cases h

/-- Every error of a problem is about a label among its lines. -/
theorem about_of_ofLines {mode : Mode} (h : ofLines mode lines = .error error) :
    ∃ label, error.About lines label := by
  rw [ofLines_eq] at h
  rcases bind_eq_error.mp h with hnames | ⟨names, -, h⟩
  · rcases about_of_readNames hnames with habout | habout
    · exact ⟨_, habout⟩
    · exact ⟨_, habout⟩
  rcases bind_eq_error.mp h with hparameters | ⟨parameters, hparameters, h⟩
  · obtain ⟨line, hline, hblamed⟩ := blamed_of_readParametersAfter hparameters
    exact ⟨_, hblamed.about hline⟩
  by_cases hnone : mode = .program ∧ parameters = []
  · rw [if_pos hnone] at h
    -- no parameter has been read, so there was no line to read one from
    have hlength := length_of_readParametersAfter hparameters
    rw [hnone.2, List.length_nil] at hlength
    exact ⟨_, Label.about_of_fail h (List.length_eq_zero_iff.mp (by omega))⟩
  · rw [if_neg hnone] at h
    exact ⟨_, about_of_readReturned h⟩

end Lines

end Problem

namespace LaidOutProblem

section Lines

variable {problem : Problem} {lines : List LabelledLine} {error : ParseError}

/-! ## Readers of layouts -/

theorem blamed_of_readInputLayout {given : List (String × InputLayout)} {line : LabelledLine}
    (h : readInputLayout problem given line = .error error) : line.Blamed error := by
  unfold readInputLayout at h
  split at h
  · split at h
    · exact .of_fail h
    split at h
    · exact .of_fail h
    split at h
    · exact .of_fail h
    split at h
    · exact .of_fail h
    · cases h
  · exact .of_fail h

/-- Reading the layouts of inputs fails over one of their lines, by induction on the lines. -/
theorem blamed_of_readInputLayoutsAfter {given : List (String × InputLayout)}
    (h : readInputLayoutsAfter problem given lines = .error error) :
    ∃ line ∈ lines, line.Blamed error := by
  induction lines generalizing given with
  | nil => cases h
  | cons line rest ih =>
    rcases bind_eq_error.mp h with hline | ⟨layout, -, h⟩
    · exact ⟨line, List.mem_cons_self, blamed_of_readInputLayout hline⟩
    · obtain ⟨other, hother, hblamed⟩ := ih h
      exact ⟨other, List.mem_cons_of_mem _ hother, hblamed⟩

theorem about_of_readInputs (h : readInputs problem lines = .error error) :
    error.About lines .inputFormat := by
  rcases bind_eq_error.mp h with h | ⟨_, -, h⟩
  · obtain ⟨line, hline, hblamed⟩ := blamed_of_readInputLayoutsAfter h
    exact hblamed.about hline
  · cases h

theorem about_of_readOutputLayout (h : readOutputLayout problem lines = .error error) :
    error.About lines .outputFormat := by
  unfold readOutputLayout at h
  split at h
  · cases h
  · next line honly =>
    have hmem : line ∈ lines.filter (·.label == .outputFormat) := by
      rw [honly]
      exact List.mem_singleton_self line
    split at h
    · have hblamed : line.Blamed error := .of_fail h
      exact hblamed.about hmem
    · split at h
      · cases h
      · have hblamed : line.Blamed error := .of_fail h
        exact hblamed.about hmem
  · next first second rest hmore =>
    have hblamed : second.Blamed error := .of_fail h
    exact hblamed.about_second hmore

/-- Every error of a problem with layouts is about a label among its lines. -/
theorem about_of_ofLines (h : ofLines lines = .error error) : ∃ label, error.About lines label := by
  rcases bind_eq_error.mp h with hproblem | ⟨problem, -, h⟩
  · exact Problem.about_of_ofLines hproblem
  rcases bind_eq_error.mp h with hinputs | ⟨inputs, -, h⟩
  · exact ⟨_, about_of_readInputs hinputs⟩
  rcases bind_eq_error.mp h with houtput | ⟨outputLayout, -, h⟩
  · exact ⟨_, about_of_readOutputLayout houtput⟩
  · cases h

end Lines

end LaidOutProblem

/-! ## Places in the text -/

open Document

theorem Label.text_injective : Function.Injective Label.text := by
  intro label label' h
  have hdifferent : (Label.all.map Label.text).Nodup := by decide
  exact List.inj_on_of_nodup_map hdifferent label.mem_all label'.mem_all h

/-- The place that an error names is right. The field is a label. With a line number, there is a
line of this number in the text, and it carries the label. Without one, no line carries it. -/
structure ParseError.PlacedIn (error : ParseError) (text : String) : Prop where
  exists_label : ∃ label : Label, label.text = error.field
  of_line : ∀ number, error.line = some number →
    1 ≤ number ∧ number ≤ (Text.lines text.toList).length ∧
      ∃ line label value, (Text.lines text.toList)[number - 1]? = some line ∧
        classifyLine line = some (label, value) ∧ label.text = error.field
  of_none : error.line = none → ∀ line ∈ Text.lines text.toList, ∀ label value,
    classifyLine line = some (label, value) → label.text ≠ error.field

/-- An error about the labelled lines of a text is placed in the text. -/
theorem ParseError.About.placedIn {error : ParseError} {text : String} {label : Label}
    (h : error.About (labelledLines text) label) : error.PlacedIn text := by
  refine ⟨⟨label, h.field_eq.symm⟩, ?_, ?_⟩
  · intro number hnumber
    rcases h.place with ⟨line, hline, rfl, hplace⟩ | ⟨hnone, -⟩
    · rw [hplace, Option.some.injEq] at hnumber
      subst hnumber
      obtain ⟨i, source, hsource, hclassify, hline⟩ := mem_labelledFrom.mp hline
      obtain ⟨hi, -⟩ := List.getElem?_eq_some_iff.mp hsource
      have hindex : line.line - 1 = i := by omega
      refine ⟨by omega, by omega, source, line.label, line.value.toList, ?_, hclassify,
        h.field_eq.symm⟩
      rw [hindex]
      exact hsource
    · rw [hnone] at hnumber
      cases hnumber
  · intro hnone
    rcases h.place with ⟨line, -, -, hplace⟩ | ⟨-, habsent⟩
    · rw [hplace] at hnone
      cases hnone
    · intro source hsource other value hclassify hfield
      obtain ⟨i, hi, rfl⟩ := List.getElem_of_mem hsource
      -- a line that carries the label would be among the labelled ones
      have hmem : (⟨other, String.ofList value, 1 + i⟩ : LabelledLine) ∈ labelledLines text :=
        mem_labelledFrom.mpr ⟨i, _, List.getElem?_eq_getElem hi, by simpa using hclassify, rfl⟩
      exact habsent _ hmem (Label.text_injective (hfield.trans h.field_eq))

/-- **Errors are where they say they are.** The line that an error names is a line of the text and
carries the label that the error names. An error that names no line is about a label that no line of
the text carries. -/
theorem placedIn_of_parse_eq_error {text : String} {error : ParseError}
    (h : Problem.parse text = .error error ∨ LaidOutProblem.parse text = .error error) :
    error.PlacedIn text := by
  rcases h with h | h
  · obtain ⟨label, habout⟩ := Problem.about_of_ofLines h
    exact habout.placedIn
  · obtain ⟨label, habout⟩ := LaidOutProblem.about_of_ofLines h
    exact habout.placedIn

/-- The line and the label that the error of a result names. -/
def placeOf? {α : Type} : Except ParseError α → Option (Option Nat × String)
  | .ok _ => none
  | .error error => some (error.line, error.field)

theorem exists_error_of_placeOf? {α : Type} {result : Except ParseError α} {line : Option Nat}
    {field : String} (h : placeOf? result = some (line, field)) :
    ∃ error, result = .error error ∧ error.line = line ∧ error.field = field := by
  cases result with
  | ok answer => cases h
  | error error =>
    cases h
    exact ⟨error, rfl, rfl, rfl⟩

/-- A document with a second layout for one parameter on its last line. -/
def twiceFormattedDocument : String :=
  "\n".intercalate ["Input Format: a line", "Problem Name: \"T\"", "", "Function Name: t\r",
    "Input Field: a int[]", "Output Field: int", "- **Input Format**: a counted"]

/-- A document without a name for the function. -/
def namelessDocument : String :=
  "\n".intercalate ["Problem Name: \"N\"", "The function has no name.", "Output Field: int"]

theorem placedIn_of_parse_eq_error_formatted :
    (∃ error, LaidOutProblem.parse twiceFormattedDocument = .error error ∧
      error.line = some 7 ∧ error.field = "Input Format" ∧
      error.PlacedIn twiceFormattedDocument) ∧
    ∃ error, Problem.parse namelessDocument = .error error ∧
      error.line = none ∧ error.field = "Function Name" ∧ error.PlacedIn namelessDocument := by
  have htwice : placeOf? (LaidOutProblem.parse twiceFormattedDocument) =
      some (some 7, "Input Format") := by
    rw [LaidOutProblem.parse, labelledLines, twiceFormattedDocument, String.toList_intercalate]
    decide +kernel
  have hnameless : placeOf? (Problem.parse namelessDocument) = some (none, "Function Name") := by
    rw [Problem.parse, labelledLines, namelessDocument, String.toList_intercalate]
    decide +kernel
  obtain ⟨error, herror, hplace⟩ := exists_error_of_placeOf? htwice
  obtain ⟨error', herror', hplace'⟩ := exists_error_of_placeOf? hnameless
  refine ⟨⟨error, herror, hplace.1, hplace.2, ?_⟩, error', herror', hplace'.1, hplace'.2, ?_⟩
  · exact placedIn_of_parse_eq_error (.inr herror)
  · exact placedIn_of_parse_eq_error (.inl herror')

end StarterCode
