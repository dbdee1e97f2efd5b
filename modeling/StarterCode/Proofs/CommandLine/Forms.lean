import StarterCode.CommandLine
import StarterCode.Proofs.Text.Lines
import StarterCode.Proofs.Text.Search

/-!
# One verdict in several forms

Validating answers with a verdict, and `json` and `quiet` only choose how it is told. It is told as
one JSON value or line by line, and without the lines that are not about errors if `quiet` is set.
The JSON form is missing when the path of the folder is not a text. Then there is a crash in its
place, and that is the one case in which the status goes by the form (`status_response`).

What there is to count comes in two lists, the diagnostics of the inspection and the messages of the
attempt to generate. Each form goes through them on its own, so what the JSON form counts has to be
compared with what is printed. This is done by the marks with which the lines begin: those with a
cross are the lines of the errors and messages, in their order, and those with an exclamation mark
are the lines of the warnings, unless these are kept back (`filter_messageLines`).

Whoever reads the printed text does not see these lines but what stands between its line feeds. It
is the same unless a line has a line feed in it, as with a folder that has one in its name, and a
mark behind that (`countP_printedLines_textOfLines`).
-/

set_option autoImplicit false

namespace StarterCode.CommandLine

namespace Verdict

/-! ## The status -/

theorem status_response_lines (verdict : Verdict) (quiet : Bool) :
    (verdict.response false quiet).status = verdict.status := by
  rw [response, if_neg Bool.false_ne_true]
  split <;> rfl

/-- The status is that of the verdict, in whatever form it is told. -/
theorem status_response {verdict : Verdict} (h : Path.isText verdict.folder = true)
    (json quiet : Bool) : (verdict.response json quiet).status = verdict.status := by
  cases json
  · exact verdict.status_response_lines quiet
  · rw [response, if_pos rfl, toJson?, if_pos h]
    rfl

/-- There is a crash in place of JSON that cannot be written. -/
theorem response_of_not_isText {verdict : Verdict} (h : Path.isText verdict.folder = false)
    (quiet : Bool) : verdict.response true quiet = crashed notTextMessage := by
  rw [response, if_pos rfl, toJson?, h]
  rfl

theorem status_ne_crashStatus (verdict : Verdict) : verdict.status ≠ crashStatus := by
  unfold status
  split <;> decide

/-- The status of an answer is that of the verdict when it is 0. -/
theorem status_eq_zero_of_response {verdict : Verdict} {json quiet : Bool}
    (h : (verdict.response json quiet).status = 0) : verdict.status = 0 := by
  cases htext : Path.isText verdict.folder with
  | true => rwa [status_response htext] at h
  | false =>
    cases json with
    | false => rwa [status_response_lines] at h
    | true =>
      rw [response_of_not_isText htext] at h
      cases h

theorem status_eq_zero_iff {verdict : Verdict} :
    verdict.status = 0 ↔ verdict.report.isValid = true ∧ verdict.generationErrors = [] := by
  simp [status, isValid]

theorem status_eq_zero_iff_isValid {verdict : Verdict} :
    verdict.status = 0 ↔ verdict.isValid = true := by
  simp [status]

/-- A folder is valid when both lists of errors are empty, and then there is nothing to count. -/
theorem isValid_iff_errorCount {verdict : Verdict} :
    verdict.isValid = true ↔ verdict.errorCount = 0 := by
  rw [isValid, Bool.and_eq_true, InspectionReport.isValid, List.isEmpty_iff, List.isEmpty_iff,
    errorCount, Nat.add_eq_zero_iff, List.length_eq_zero_iff, List.length_eq_zero_iff]

/-! ## The JSON form -/

theorem toJson?_eq_some {verdict : Verdict} (h : Path.isText verdict.folder = true) :
    verdict.toJson? = some (.object verdict.members) :=
  if_pos h

/-- What the JSON form says of validity and counts is what the verdict says. -/
theorem lookup_members (verdict : Verdict) :
    verdict.members.lookup "valid" = some (.bool verdict.isValid) ∧
      verdict.members.lookup "errors" = some (.nat verdict.errorCount) ∧
      verdict.members.lookup "warnings" = some (.nat verdict.report.warnings.length) := by
  cases hgeneration : verdict.generation <;> simp [members, hgeneration, List.lookup_cons]

theorem output_response_json {verdict : Verdict} (h : Path.isText verdict.folder = true)
    (quiet : Bool) :
    (verdict.response true quiet).output = (Json.object verdict.members).pretty ++ "\n" := by
  rw [response, if_pos rfl, toJson?_eq_some h]
  rfl

/-! ## The lines -/

/-- The mark of the lines for diagnostics of a severity. -/
def mark : Severity → Char
  | .error => '✗'
  | .warning => '!'

/-- The line begins with the mark. -/
def isMarked (mark : Char) (line : String) : Bool :=
  [' ', ' ', mark, ' '].isPrefixOf line.toList

/-- The line for a diagnostic that is not kept back. -/
def lineFor (diagnostic : Diagnostic) : String :=
  match diagnostic.severity with
  | .error => "  ✗ " ++ diagnostic.text
  | .warning => "  ! " ++ diagnostic.text

/-- What is printed on the standard error output, line after line. -/
def messageLines (verdict : Verdict) (quiet : Bool) : List String :=
  verdict.problemLines quiet ++ if verdict.isValid then [] else [verdict.invalidLine]

theorem messages_response (verdict : Verdict) (quiet : Bool) :
    (verdict.response false quiet).messages = textOfLines (verdict.messageLines quiet) := by
  rw [response, if_neg Bool.false_ne_true, messageLines]
  by_cases hvalid : verdict.isValid = true
  · rw [if_pos hvalid, if_pos hvalid, List.append_nil]
  · rw [if_neg hvalid, if_neg hvalid]

/-- Without an error, `quiet` keeps back the only line on the standard output. -/
theorem output_response_quiet (verdict : Verdict) : (verdict.response false true).output = "" := by
  unfold response
  split
  · contradiction
  · split <;> rfl

theorem isMarked_lineFor (severity : Severity) (diagnostic : Diagnostic) :
    isMarked (mark severity) (lineFor diagnostic) = (diagnostic.severity == severity) := by
  unfold lineFor
  cases diagnostic.severity <;> cases severity <;> simp [isMarked, mark, List.isPrefixOf]

theorem isMarked_generationLine (severity : Severity) (message : String) :
    isMarked (mark severity) (generationLine message) = (severity == .error) := by
  unfold generationLine
  cases severity <;> simp [isMarked, mark, List.isPrefixOf]

/-- The last line has no mark. -/
theorem isMarked_invalidLine (severity : Severity) (verdict : Verdict) :
    isMarked (mark severity) verdict.invalidLine = false := by
  simp [isMarked, invalidLine, toString, List.isPrefixOf]

theorem diagnosticLine?_eq (quiet : Bool) (diagnostic : Diagnostic) :
    diagnosticLine? quiet diagnostic =
      if quiet && diagnostic.severity == .warning then none else some (lineFor diagnostic) := by
  unfold diagnosticLine? lineFor
  cases hseverity : diagnostic.severity <;> cases quiet <;> rfl

/-- The lines with the mark of a severity are those of its diagnostics, unless these are kept back.
-/
theorem filter_diagnosticLines (quiet : Bool) (severity : Severity)
    (diagnostics : List Diagnostic) :
    (diagnostics.filterMap (diagnosticLine? quiet)).filter (isMarked (mark severity)) =
      if quiet && severity == .warning then []
      else (diagnostics.filter (·.severity == severity)).map lineFor := by
  induction diagnostics with
  | nil => split <;> rfl
  | cons diagnostic diagnostics ih =>
    by_cases hkept : (quiet && diagnostic.severity == .warning) = true
    · -- the diagnostic has no line, and its severity is not asked for or kept back as well
      rw [List.filterMap_cons_none (by rw [diagnosticLine?_eq, if_pos hkept]), ih]
      by_cases hseverity : (diagnostic.severity == severity) = true
      · rw [← eq_of_beq hseverity, if_pos hkept, if_pos hkept]
      · rw [List.filter_cons, if_neg hseverity]
    · rw [List.filterMap_cons_some (by rw [diagnosticLine?_eq, if_neg hkept]), List.filter_cons,
        isMarked_lineFor, ih, List.filter_cons]
      by_cases hseverity : (diagnostic.severity == severity) = true
      · rw [if_pos hseverity, if_pos hseverity, ← eq_of_beq hseverity, if_neg hkept, if_neg hkept,
          List.map_cons]
      · rw [if_neg hseverity, if_neg hseverity]

/-- The lines for messages of the attempt to generate have the mark of errors. -/
theorem filter_generationLines (severity : Severity) (messages : List String) :
    (messages.map generationLine).filter (isMarked (mark severity)) =
      if severity == .error then messages.map generationLine else [] := by
  by_cases herror : (severity == .error) = true
  · rw [if_pos herror, List.filter_eq_self, List.forall_mem_map]
    exact fun message _ => (isMarked_generationLine severity message).trans herror
  · rw [if_neg herror, List.filter_eq_nil_iff, List.forall_mem_map]
    intro message _
    rw [isMarked_generationLine]
    exact herror

/-- The last line is counted neither as an error nor as a warning. -/
theorem filter_messageLines_eq (verdict : Verdict) (quiet : Bool) (severity : Severity) :
    (verdict.messageLines quiet).filter (isMarked (mark severity)) =
      (verdict.problemLines quiet).filter (isMarked (mark severity)) := by
  rw [messageLines, List.filter_append]
  split
  · rw [List.filter_nil, List.append_nil]
  · rw [List.filter_cons_of_neg (by rw [isMarked_invalidLine]; exact Bool.false_ne_true),
      List.filter_nil, List.append_nil]

/-- **The lines with a mark.** Those for errors are the lines of all errors and, behind them, of all
messages of the attempt to generate. Those for warnings are the lines of all warnings, or none. -/
theorem filter_messageLines (verdict : Verdict) (quiet : Bool) :
    (verdict.messageLines quiet).filter (isMarked (mark .error)) =
        verdict.report.errors.map lineFor ++ verdict.generationErrors.map generationLine ∧
      (verdict.messageLines quiet).filter (isMarked (mark .warning)) =
        if quiet then [] else verdict.report.warnings.map lineFor := by
  simp only [filter_messageLines_eq, problemLines, List.filter_append, filter_diagnosticLines,
    filter_generationLines, InspectionReport.errors, InspectionReport.warnings]
  cases quiet <;> simp

/-- As many lines have a cross as there are errors, and as many have an exclamation mark as there
are warnings, unless these are kept back. -/
theorem countP_messageLines (verdict : Verdict) (quiet : Bool) :
    (verdict.messageLines quiet).countP (isMarked '✗') = verdict.errorCount ∧
      (verdict.messageLines quiet).countP (isMarked '!') =
        if quiet then 0 else verdict.report.warnings.length := by
  obtain ⟨hcross, hexclamation⟩ := verdict.filter_messageLines quiet
  constructor
  · calc (verdict.messageLines quiet).countP (isMarked '✗')
      _ = ((verdict.messageLines quiet).filter (isMarked (mark .error))).length :=
        List.countP_eq_length_filter
      _ = verdict.errorCount := by
        rw [hcross, List.length_append, List.length_map, List.length_map, errorCount]
  · calc (verdict.messageLines quiet).countP (isMarked '!')
      _ = ((verdict.messageLines quiet).filter (isMarked (mark .warning))).length :=
        List.countP_eq_length_filter
      _ = if quiet then 0 else verdict.report.warnings.length := by
        rw [hexclamation, apply_ite List.length, List.length_map, List.length_nil]

/-! ## The printed text -/

/-- What stands between the line feeds of a printed text. -/
def printedLines (text : String) : List String :=
  (Text.pieces '\n' text.toList).map String.ofList

/-- What a line shows behind the line feeds in it. -/
def furtherLines (line : String) : List String :=
  (printedLines line).tail

/-- Printed lines are those of each line, one after the other. -/
theorem printedLines_textOfLines (lines : List String) :
    printedLines (textOfLines lines) = lines.flatMap printedLines ++ [""] := by
  induction lines with
  | nil => rfl
  | cons line lines ih =>
    have htext : (textOfLines (line :: lines)).toList =
        line.toList ++ '\n' :: (textOfLines lines).toList := by
      simp [textOfLines, String.join_cons]
    rw [printedLines, htext, Text.pieces_append_cons, List.map_append, List.flatMap_cons,
      List.append_assoc, ← ih]
    rfl

/-- The first of the printed lines of a line has its mark, as there is no line feed in a mark. -/
theorem countP_printedLines {mark : Char} (hmark : mark ≠ '\n') (line : String) :
    (printedLines line).countP (isMarked mark) =
      (if isMarked mark line then 1 else 0) + (furtherLines line).countP (isMarked mark) := by
  obtain ⟨first, others, hpieces, hfirst⟩ :
      ∃ first others, printedLines line = first :: others ∧
        isMarked mark first = isMarked mark line := by
    by_cases hfeed : '\n' ∈ line.toList
    · obtain ⟨front, rest, hline, hfront⟩ := List.eq_append_cons_of_mem hfeed
      have hword : '\n' ∉ [' ', ' ', mark, ' '] := by simp [hmark.symm]
      refine ⟨String.ofList front, printedLines (String.ofList rest), ?_, ?_⟩
      · rw [printedLines, hline, Text.pieces_append_cons, Text.pieces_of_not_mem hfront,
          printedLines, String.toList_ofList]
        rfl
      · rw [isMarked, isMarked, Bool.eq_iff_iff, List.isPrefixOf_iff_prefix,
          List.isPrefixOf_iff_prefix, hline, Text.prefix_append_cons_iff hword,
          String.toList_ofList]
    · exact ⟨line, [], by rw [printedLines, Text.pieces_of_not_mem hfeed, List.map_singleton,
        String.ofList_toList], rfl⟩
  rw [furtherLines, hpieces, List.countP_cons, hfirst, List.tail_cons, Nat.add_comm]

/-- **Marks in the printed text.** There are as many as there are marked lines, and those that lines
show behind line feeds in them. -/
theorem countP_printedLines_textOfLines {mark : Char} (hmark : mark ≠ '\n')
    (lines : List String) :
    (printedLines (textOfLines lines)).countP (isMarked mark) =
      lines.countP (isMarked mark) + (lines.flatMap furtherLines).countP (isMarked mark) := by
  rw [printedLines_textOfLines, List.countP_append]
  have hend : [""].countP (isMarked mark) = 0 := by simp [isMarked]
  rw [hend, Nat.add_zero]
  induction lines with
  | nil => rfl
  | cons line lines ih =>
    rw [List.flatMap_cons, List.countP_append, ih, countP_printedLines hmark, List.countP_cons,
      List.flatMap_cons, List.countP_append]
    omega

theorem furtherLines_of_not_mem {line : String} (h : '\n' ∉ line.toList) :
    furtherLines line = [] := by
  rw [furtherLines, printedLines, Text.pieces_of_not_mem h]
  rfl

end Verdict

/-! ## The answers -/

/-- The answer to a request to validate. -/
def validation (tree : FileTree) (folder : String) (dryRunWanted json quiet : Bool) : Response :=
  ((Request.run (.validate folder json dryRunWanted) quiet).answer tree).1

/-- **When all forms tell the same verdict.** Line by line the status is that of the verdict, and it
does not depend on the form exactly when the path of the folder is a text; when it is not, asking
for JSON ends in a crash. The verdict is 0 exactly when it is valid and exactly when there are no
errors, and the JSON form has these values and the number of warnings. Line by line, as many lines
have a cross as there are errors, and as many have an exclamation mark as there are warnings, or
none with `quiet`. The printed text shows that many, and on top of them those that stand behind a
line feed inside of a line. With `quiet`, nothing but JSON goes to the standard output. -/
theorem validation_forms_agree (tree : FileTree) (folder : String) (dryRunWanted : Bool) :
    let verdict := judge tree folder dryRunWanted
    let answer := validation tree folder dryRunWanted
    (∀ quiet, (answer false quiet).status = verdict.status) ∧
    ((∀ json quiet, (answer json quiet).status = verdict.status) ↔ Path.isText folder = true) ∧
    (Path.isText folder = false → ∀ quiet, answer true quiet = crashed notTextMessage) ∧
    (verdict.status = 0 ↔ verdict.isValid = true) ∧ (verdict.status = 0 ↔ verdict.errorCount = 0) ∧
    (Path.isText folder = true → ∃ value, verdict.toJson? = some value ∧
      (∀ quiet, (answer true quiet).output = value.pretty ++ "\n") ∧
      value.member? "valid" = some (.bool verdict.isValid) ∧
      value.member? "errors" = some (.nat verdict.errorCount) ∧
      value.member? "warnings" = some (.nat verdict.report.warnings.length)) ∧
    (∀ quiet, (answer false quiet).messages = textOfLines (verdict.messageLines quiet) ∧
      (verdict.messageLines quiet).countP (Verdict.isMarked '✗') = verdict.errorCount ∧
      (verdict.messageLines quiet).countP (Verdict.isMarked '!') =
        (if quiet then 0 else verdict.report.warnings.length) ∧
      ∀ mark ∈ ['✗', '!'],
        (Verdict.printedLines (answer false quiet).messages).countP (Verdict.isMarked mark) =
          (verdict.messageLines quiet).countP (Verdict.isMarked mark) +
            ((verdict.messageLines quiet).flatMap Verdict.furtherLines).countP
              (Verdict.isMarked mark)) ∧
    (answer false true).output = "" := by
  intro verdict answer
  have hcrash : Path.isText folder = false → ∀ quiet,
      answer true quiet = crashed notTextMessage :=
    fun htext => Verdict.response_of_not_isText htext
  refine ⟨verdict.status_response_lines, ⟨?_, fun htext => Verdict.status_response htext⟩, hcrash,
    Verdict.status_eq_zero_iff_isValid, ?_, ?_, ?_, verdict.output_response_quiet⟩
  · intro hsame
    by_contra htext
    have hstatus := hsame true false
    rw [hcrash (eq_false_of_ne_true htext)] at hstatus
    exact verdict.status_ne_crashStatus hstatus.symm
  · rw [Verdict.status_eq_zero_iff_isValid, Verdict.isValid_iff_errorCount]
  · intro htext
    exact ⟨_, Verdict.toJson?_eq_some htext, Verdict.output_response_json htext,
      verdict.lookup_members⟩
  · intro quiet
    obtain ⟨herrors, hwarnings⟩ := verdict.countP_messageLines quiet
    refine ⟨verdict.messages_response quiet, herrors, hwarnings, ?_⟩
    intro mark hmark
    have hfeed : mark ≠ '\n' := by
      rintro rfl
      exact absurd hmark (by decide)
    have hmessages : (answer false quiet).messages = textOfLines (verdict.messageLines quiet) :=
      verdict.messages_response quiet
    rw [hmessages, Verdict.countP_printedLines_textOfLines hfeed]

/-- Without a folder named `p` and a byte that belongs to no character, `validate` exits with 1 and
crashes with `json`. Without a folder of two lines, there is one error and three lines with a cross.
-/
theorem validation_forms_differ :
    (validation ⟨[], []⟩ (Path.ofBytes [0x70, 0xff]) false false false).status = 1 ∧
      (validation ⟨[], []⟩ (Path.ofBytes [0x70, 0xff]) false true false).status = 101 ∧
      (judge ⟨[], []⟩ "x\n  ✗ y" false).errorCount = 1 ∧
      (Verdict.printedLines (validation ⟨[], []⟩ "x\n  ✗ y" false false false).messages).countP
        (Verdict.isMarked '✗') = 3 := by
  decide +kernel

end StarterCode.CommandLine
