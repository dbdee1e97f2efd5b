import StarterCode.Proofs.Document.Insertion
import StarterCode.Proofs.Problem.Parts

/-!
# Lines that are passed over

A document may say what it likes between the lines that are read. One more line that carries no
label, or one of the labels that are passed over, leaves the outcome as it is; only the numbers of
the lines behind it are one more wherever an error names them.

Two properties of the readers carry this.

* They look at the lines of one label at a time, so two lists of lines with the same lines under
  each label that is read have the same outcome (`Problem.ofLines_congr`).
* They copy the numbers of lines into errors and do nothing else with them. Reading lines under
  other numbers gives the same answer, or the same error under the other numbers
  (`Problem.ofLines_renumbered`).

A line that is put in changes the lines under its own label and the numbers behind it, and nothing
else, so the two together are what is wanted.
-/

set_option autoImplicit false

namespace StarterCode

/-! ## Errors under other numbers -/

/-- The complaint with the number that it mentions, if there is one, replaced. -/
def Complaint.renumbered (number : Nat → Nat) : Complaint → Complaint
  | .repeated label firstLine => .repeated label (number firstLine)
  | complaint => complaint

/-- The error with every number of a line replaced, that of its place and that in its complaint. -/
def ParseError.renumbered (number : Nat → Nat) (error : ParseError) : ParseError where
  line := error.line.map number
  field := error.field
  complaint := error.complaint.renumbered number

section Renumbered

variable {number : Nat → Nat} {line : LabelledLine} {lines : List LabelledLine}

theorem filter_map_renumbered (label : Label) :
    (lines.map (·.renumbered number)).filter (·.label == label) =
      (lines.filter (·.label == label)).map (·.renumbered number) := by
  rw [List.filter_map]
  rfl

namespace Problem

/-! ## Readers under other numbers -/

/-- The only line of a label is read under its other number. -/
theorem onlyLine_bind_renumbered {α : Type} {label : Label}
    {next next' : LabelledLine → Except ParseError α}
    (hnext : ∀ line, next' (line.renumbered number) =
      (next line).mapError (·.renumbered number)) :
    (onlyLine label (lines.map (·.renumbered number)) >>= next') =
      (onlyLine label lines >>= next).mapError (·.renumbered number) := by
  rw [onlyLine, onlyLine, filter_map_renumbered]
  cases lines.filter (·.label == label) with
  | nil => rfl
  | cons first others =>
    cases others with
    | nil => exact hnext first
    | cons second others => rfl

theorem readName_renumbered :
    readName (line.renumbered number) = (readName line).mapError (·.renumbered number) := by
  have hvalue : (line.renumbered number).value = line.value := rfl
  rw [readName, readName, hvalue]
  cases unquoted? line.value.toList with
  | none => rfl
  | some inner =>
    simp only
    split <;> rfl

theorem readFunctionName_renumbered :
    readFunctionName (line.renumbered number) =
      (readFunctionName line).mapError (·.renumbered number) := by
  have hvalue : (line.renumbered number).value = line.value := rfl
  rw [readFunctionName, readFunctionName, hvalue]
  split
  · rfl
  · split <;> rfl

theorem readFieldType_renumbered (source : List Char) :
    readFieldType source (line.renumbered number).line (line.renumbered number).label.text =
      (readFieldType source line.line line.label.text).mapError (·.renumbered number) := by
  rw [readFieldType, readFieldType]
  cases TypeExpr.parse source <;> rfl

theorem readParameter_renumbered (order : Nat) :
    readParameter order (line.renumbered number) =
      (readParameter order line).mapError (·.renumbered number) := by
  have hvalue : (line.renumbered number).value = line.value := rfl
  rw [readParameter, readParameter, hvalue]
  obtain ⟨name, source⟩ := Text.splitFirstWord line.value.toList
  simp only
  split
  · rfl
  split
  · rfl
  split
  · rfl
  exact bind_mapError (readFieldType_renumbered source) fun _ => rfl

/-- Reading the parameters, by induction on their lines. -/
theorem readParametersAfter_renumbered (earlier : List Parameter) :
    readParametersAfter earlier (lines.map (·.renumbered number)) =
      (readParametersAfter earlier lines).mapError (·.renumbered number) := by
  induction lines generalizing earlier with
  | nil => rfl
  | cons line rest ih =>
    refine bind_mapError (readParameter_renumbered earlier.length) fun parameter => ?_
    split
    · rfl
    · exact ih (earlier ++ [parameter])

theorem readOutput_renumbered :
    readOutput (line.renumbered number) = (readOutput line).mapError (·.renumbered number) := by
  have hvalue : (line.renumbered number).value = line.value := rfl
  rw [readOutput, readOutput, hvalue]
  simp only
  cases TypeExpr.parse line.value.toList with
  | ok type => rfl
  | error error =>
    obtain ⟨name, source⟩ := Text.splitFirstWord line.value.toList
    simp only
    split
    · rfl
    · exact bind_mapError (readFieldType_renumbered source) fun _ => rfl

theorem outputNameFor_renumbered (taken : List String) (declared : Option String) :
    outputNameFor (line.renumbered number) taken declared =
      (outputNameFor line taken declared).mapError (·.renumbered number) := by
  cases declared with
  | none => rfl
  | some name =>
    rw [outputNameFor, outputNameFor]
    split <;> rfl

theorem readNames_renumbered :
    readNames (lines.map (·.renumbered number)) =
      (readNames lines).mapError (·.renumbered number) := by
  rw [readNames, readNames]
  refine onlyLine_bind_renumbered fun line => ?_
  refine bind_mapError readName_renumbered fun name => ?_
  refine onlyLine_bind_renumbered fun line => ?_
  exact bind_mapError readFunctionName_renumbered fun _ => rfl

theorem readReturned_renumbered (names : String × String) (parameters : List Parameter) :
    readReturned (lines.map (·.renumbered number)) names parameters =
      (readReturned lines names parameters).mapError (·.renumbered number) := by
  rw [readReturned, readReturned]
  refine onlyLine_bind_renumbered fun line => ?_
  refine bind_mapError readOutput_renumbered fun output => ?_
  exact bind_mapError (outputNameFor_renumbered _ _) fun _ => rfl

/-- Lines under other numbers give the same problem, or the same error under the other numbers. -/
theorem ofLines_renumbered (mode : Mode) :
    ofLines mode (lines.map (·.renumbered number)) =
      (ofLines mode lines).mapError (·.renumbered number) := by
  rw [ofLines_eq, ofLines_eq, filter_map_renumbered]
  refine bind_mapError readNames_renumbered fun names => ?_
  refine bind_mapError (readParametersAfter_renumbered []) fun parameters => ?_
  split
  · rfl
  · exact readReturned_renumbered names parameters

end Problem

namespace LaidOutProblem

theorem readInputLayout_renumbered (problem : Problem) (given : List (String × InputLayout)) :
    readInputLayout problem given (line.renumbered number) =
      (readInputLayout problem given line).mapError (·.renumbered number) := by
  have hvalue : (line.renumbered number).value = line.value := rfl
  rw [readInputLayout.eq_def, readInputLayout.eq_def problem given line, hvalue]
  split
  · next name word hwords =>
    cases problem.parameter? name with
    | none => rfl
    | some parameter =>
      cases inputLayout? word with
      | none => rfl
      | some layout =>
        simp only
        split
        · rfl
        · split <;> rfl
  · rfl

/-- Reading the layouts of the inputs, by induction on their lines. -/
theorem readInputLayoutsAfter_renumbered (problem : Problem)
    (given : List (String × InputLayout)) :
    readInputLayoutsAfter problem given (lines.map (·.renumbered number)) =
      (readInputLayoutsAfter problem given lines).mapError (·.renumbered number) := by
  induction lines generalizing given with
  | nil => rfl
  | cons line rest ih =>
    exact bind_mapError (readInputLayout_renumbered problem given) fun layout =>
      ih (given ++ [layout])

theorem readInputs_renumbered (problem : Problem) :
    readInputs problem (lines.map (·.renumbered number)) =
      (readInputs problem lines).mapError (·.renumbered number) := by
  rw [readInputs, readInputs, filter_map_renumbered]
  exact bind_mapError (readInputLayoutsAfter_renumbered problem []) fun _ => rfl

theorem readOutputLayout_renumbered (problem : Problem) :
    readOutputLayout problem (lines.map (·.renumbered number)) =
      (readOutputLayout problem lines).mapError (·.renumbered number) := by
  rw [readOutputLayout, readOutputLayout, filter_map_renumbered]
  cases lines.filter (·.label == .outputFormat) with
  | nil => rfl
  | cons first others =>
    cases others with
    | nil =>
      have hvalue : (first.renumbered number).value = first.value := rfl
      simp only [List.map_singleton, hvalue]
      cases outputLayout? first.value with
      | none => rfl
      | some layout =>
        simp only
        split <;> rfl
    | cons second others => rfl

/-- The same for a problem with layouts. -/
theorem ofLines_renumbered :
    ofLines (lines.map (·.renumbered number)) =
      (ofLines lines).mapError (·.renumbered number) := by
  refine bind_mapError (Problem.ofLines_renumbered .program) fun problem => ?_
  refine bind_mapError (readInputs_renumbered problem) fun inputs => ?_
  exact bind_mapError (readOutputLayout_renumbered problem) fun _ => rfl

end LaidOutProblem

end Renumbered

/-! ## Labels that are read -/

/-- The labels of the lines that a mode passes over. The headings are for readers of the document,
and a stub has no use for layouts. -/
def Mode.passedOver : Mode → List Label
  | .stub => [.inputStructure, .outputStructure, .inputFormat, .outputFormat]
  | .program => [.inputStructure, .outputStructure]

section Congruence

variable {lines lines' : List LabelledLine}

/-- A problem is read from the lines that a stub does not pass over, whatever the mode. -/
theorem Problem.ofLines_congr {mode : Mode}
    (h : ∀ label, label ∉ Mode.stub.passedOver →
      lines.filter (·.label == label) = lines'.filter (·.label == label)) :
    ofLines mode lines = ofLines mode lines' := by
  have hname := h .problemName (by decide)
  have hfunction := h .functionName (by decide)
  have hinput := h .inputField (by decide)
  have houtput := h .outputField (by decide)
  simp only [ofLines, onlyLine, hname, hfunction, hinput, houtput]

/-- Layouts are read from the lines of two labels more. -/
theorem LaidOutProblem.ofLines_congr
    (h : ∀ label, label ∉ Mode.program.passedOver →
      lines.filter (·.label == label) = lines'.filter (·.label == label)) :
    ofLines lines = ofLines lines' := by
  have hproblem : Problem.ofLines .program lines = Problem.ofLines .program lines' := by
    apply Problem.ofLines_congr
    intro label hlabel
    apply h
    revert hlabel
    cases label <;> decide
  have hinputs := h .inputFormat (by decide)
  have houtput := h .outputFormat (by decide)
  simp only [ofLines, hproblem, readInputs, readOutputLayout, hinputs, houtput]

end Congruence

/-! ## Lines put in -/

open Document

/-- **Lines that are passed over make no difference.** Let a text be cut at a line end, and let one
more line be put in there. If the line carries no label, or one that the mode passes over, then the
outcome stays the same: the problem is the same, and so is the error, in which the numbers of the
lines behind the cut are one more. -/
theorem parse_insert (a line b : String) (hline : '\n' ∉ line.toList) :
    ((∀ labelled ∈ labelledLines line, labelled.label ∈ Mode.stub.passedOver) →
      Problem.parse (a ++ "\n" ++ line ++ "\n" ++ b) =
        (Problem.parse (a ++ "\n" ++ b)).mapError
          (·.renumbered (pushedBehind (a.toList.count '\n' + 1)))) ∧
    ((∀ labelled ∈ labelledLines line, labelled.label ∈ Mode.program.passedOver) →
      LaidOutProblem.parse (a ++ "\n" ++ line ++ "\n" ++ b) =
        (LaidOutProblem.parse (a ++ "\n" ++ b)).mapError
          (·.renumbered (pushedBehind (a.toList.count '\n' + 1)))) := by
  -- under a label that is not passed over, the lines are the same but for their numbers
  have hsame : ∀ mode : Mode, (∀ labelled ∈ labelledLines line, labelled.label ∈ mode.passedOver) →
      ∀ label, label ∉ mode.passedOver →
        (labelledLines (a ++ "\n" ++ line ++ "\n" ++ b)).filter (·.label == label) =
          ((labelledLines (a ++ "\n" ++ b)).map
            (·.renumbered (pushedBehind (a.toList.count '\n' + 1)))).filter (·.label == label) := by
    intro mode hpassed label hlabel
    refine filter_labelledLines_insert hline fun labelled hlabelled heq => ?_
    exact hlabel (heq ▸ hpassed labelled hlabelled)
  refine ⟨fun hpassed => ?_, fun hpassed => ?_⟩
  · rw [Problem.parse, Problem.ofLines_congr (hsame .stub hpassed), Problem.ofLines_renumbered,
      Problem.parse]
  · rw [LaidOutProblem.parse, LaidOutProblem.ofLines_congr (hsame .program hpassed),
      LaidOutProblem.ofLines_renumbered, LaidOutProblem.parse]

/-- The lines of a document up to a cut. -/
def upperLines : String := "Problem Name: \"P\"\nFunction Name: f"

/-- The lines behind the cut, where the function is named once more. -/
def lowerLines : String := "Function Name: g\nOutput Field: int"

/-- A layout put in at the cut is passed over by a stub, prose is passed over by a program. The
second name of the function is then on the fourth line and no longer on the third. -/
theorem parse_insert_repeated :
    (labelledLines "- Input Format: x sideways").map (·.label) = [.inputFormat] ∧
    labelledLines "Some prose." = [] ∧
    Problem.parse (upperLines ++ "\n" ++ lowerLines) =
      .error ⟨some 3, "Function Name", .repeated .functionName 2⟩ ∧
    Problem.parse (upperLines ++ "\n" ++ "- Input Format: x sideways" ++ "\n" ++ lowerLines) =
      .error ⟨some 4, "Function Name", .repeated .functionName 2⟩ ∧
    LaidOutProblem.parse (upperLines ++ "\n" ++ "Some prose." ++ "\n" ++ lowerLines) =
      .error ⟨some 4, "Function Name", .repeated .functionName 2⟩ := by
  have hformat : labelledLines "- Input Format: x sideways" =
      [⟨.inputFormat, "x sideways", 1⟩] := by
    decide +kernel
  have hprose : labelledLines "Some prose." = [] := by decide +kernel
  have hlines : labelledLines (upperLines ++ "\n" ++ lowerLines) = [
      ⟨.problemName, "\"P\"", 1⟩, ⟨.functionName, "f", 2⟩, ⟨.functionName, "g", 3⟩,
      ⟨.outputField, "int", 4⟩] := by
    decide +kernel
  have hcount : upperLines.toList.count '\n' = 1 := by decide +kernel
  have hstub : Problem.parse (upperLines ++ "\n" ++ lowerLines) =
      .error ⟨some 3, "Function Name", .repeated .functionName 2⟩ := by
    rw [Problem.parse, hlines]
    rfl
  have hprogram : LaidOutProblem.parse (upperLines ++ "\n" ++ lowerLines) =
      .error ⟨some 3, "Function Name", .repeated .functionName 2⟩ := by
    rw [LaidOutProblem.parse, hlines]
    rfl
  refine ⟨by rw [hformat]; rfl, hprose, hstub, ?_, ?_⟩
  · rw [(parse_insert upperLines "- Input Format: x sideways" lowerLines (by decide +kernel)).1 ?_,
      hstub, hcount]
    · rfl
    · rw [hformat]
      decide
  · rw [(parse_insert upperLines "Some prose." lowerLines (by decide +kernel)).2 ?_, hprogram,
      hcount]
    · rfl
    · rw [hprose]
      decide

end StarterCode
