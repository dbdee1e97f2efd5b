import StarterCode.Proofs.Problem.Hints

/-!
# Which layout lines are read

`DeclaredBy` says of a whole document what it declares. Here the layout lines stand alone: the
problem is read already, and the question is which layout lines turn it into one with layouts and
which layouts these are. `FormatsInOrder` is the answer in terms of the values behind the labels. It
does not speak of hints: it says which words a value consists of, and that no two lines begin with
the same one.

A value determines its hint (`hintOf`), so a list of hints that belongs to the values is one list,
and everything said about hints becomes a statement about values.
-/

set_option autoImplicit false

namespace StarterCode

open Document

namespace LaidOutProblem

/-! ## The values of layout lines -/

/-- The words of a value. -/
def wordsOf (value : String) : List String :=
  (Text.words value.toList).map String.ofList

/-- The layout lines that can be read with a problem. Every input line is a parameter and one of its
layouts, no parameter has two lines, and there is at most one line for the output. -/
structure FormatsInOrder (problem : Problem) (values : Label → List String) : Prop where
  input : ∀ value ∈ values .inputFormat, ∃ parameter ∈ problem.parameters,
    wordsOf value = [parameter.name, "counted"] ∨
      wordsOf value = [parameter.name, "line"] ∧
        ∃ element, parameter.type = .array element ∧ element.isScalar = true
  input_once : ((values .inputFormat).map fun value => (wordsOf value).head?).Nodup
  output : ∀ value ∈ values .outputFormat,
    value = "line" ∨ value = "lines" ∧ ∃ element, problem.returnType = .array element
  output_once : (values .outputFormat).length ≤ 1

/-- The hint that a value of two words gives. -/
def hintOf (value : String) : String × InputLayout :=
  match wordsOf value with
  | [name, word] => (name, (inputLayout? word).getD .counted)
  | _ => ("", .counted)

theorem hintOf_eq {value : String} {hint : String × InputLayout}
    (h : wordsOf value = [hint.1, hint.2.text]) : hintOf value = hint := by
  have hlayout : inputLayout? hint.2.text = some hint.2 := inputLayout?_eq_some.mpr rfl
  rw [hintOf, h]
  simp only [hlayout, Option.getD_some]

theorem fitsInput_line_iff {type : ValueType} :
    fitsInput type .line = true ↔ ∃ element, type = .array element ∧ element.isScalar = true := by
  rw [fitsInput]
  cases type with
  | array element => simp [ValueType.element?]
  | _ => simp [ValueType.element?]

theorem fitsOutput_lines_iff {type : ValueType} :
    fitsOutput type .lines = true ↔ ∃ element, type = .array element := by
  rw [fitsOutput]
  cases type with
  | array element => simp [ValueType.isArray]
  | _ => simp [ValueType.isArray]

theorem layoutUnder_eq_line_iff {hints : List (String × InputLayout)} {name : String} :
    layoutUnder hints name = .line ↔ (name, .line) ∈ hints := by
  rw [layoutUnder]
  by_cases h : (name, .line) ∈ hints
  · simp [h]
  · simp [h]

section Hints

variable {problem : Problem} {values : List String} {hints : List (String × InputLayout)}

/-- Whether a value is a hint is a matter of its words. -/
theorem hints_iff {value : String} {hint : String × InputLayout} :
    Hints problem value hint ↔ wordsOf value = [hint.1, hint.2.text] ∧
      ∃ parameter ∈ problem.parameters,
        parameter.name = hint.1 ∧ fitsInput parameter.type hint.2 = true := by
  have hwords : Text.words value.toList = [hint.1.toList, hint.2.text.toList] ↔
      wordsOf value = [hint.1, hint.2.text] := by
    rw [wordsOf]
    constructor
    · intro h
      rw [h, List.map_cons, List.map_cons, List.map_nil, String.ofList_toList,
        String.ofList_toList]
    · intro h
      have hlist := congrArg (List.map String.toList) h
      simpa [Function.comp_def] using hlist
  constructor
  · intro h
    exact ⟨hwords.mp h.words_eq, h.exists_parameter⟩
  · rintro ⟨hvalue, hparameter⟩
    exact ⟨hwords.mpr hvalue, hparameter⟩

/-- A value gives a hint exactly when it is a parameter and one of its layouts. -/
theorem hints_hintOf_iff {value : String} :
    Hints problem value (hintOf value) ↔ ∃ parameter ∈ problem.parameters,
      wordsOf value = [parameter.name, "counted"] ∨
        wordsOf value = [parameter.name, "line"] ∧
          ∃ element, parameter.type = .array element ∧ element.isScalar = true := by
  constructor
  · intro h
    obtain ⟨hwords, parameter, hparameter, hname, hfits⟩ := hints_iff.mp h
    rw [← hname] at hwords
    refine ⟨parameter, hparameter, ?_⟩
    -- only `line` asks something of the type
    cases hlayout : (hintOf value).2 with
    | counted =>
      rw [hlayout] at hwords
      exact .inl hwords
    | line =>
      rw [hlayout] at hwords hfits
      exact .inr ⟨hwords, fitsInput_line_iff.mp hfits⟩
  · rintro ⟨parameter, hparameter, hwords | ⟨hwords, helement⟩⟩
    · have hhint : hintOf value = (parameter.name, .counted) := hintOf_eq hwords
      rw [hhint]
      exact hints_iff.mpr ⟨hwords, parameter, hparameter, rfl, rfl⟩
    · have hhint : hintOf value = (parameter.name, .line) := hintOf_eq hwords
      rw [hhint]
      exact hints_iff.mpr ⟨hwords, parameter, hparameter, rfl, fitsInput_line_iff.mpr helement⟩

/-- The hints that belong to the values are those that the values determine. -/
theorem forall₂_hints_iff :
    List.Forall₂ (Hints problem) values hints ↔
      hints = values.map hintOf ∧ ∀ value ∈ values, Hints problem value (hintOf value) := by
  constructor
  · intro h
    induction h with
    | nil => exact ⟨rfl, by simp⟩
    | @cons value hint values hints hvalue _ ih =>
      obtain ⟨rfl, hvalues⟩ := ih
      have hhint : hintOf value = hint := hintOf_eq (hints_iff.mp hvalue).1
      refine ⟨by rw [List.map_cons, hhint], ?_⟩
      intro other hother
      rcases List.mem_cons.mp hother with rfl | hother
      · rw [hhint]
        exact hvalue
      · exact hvalues other hother
  · rintro ⟨rfl, hvalues⟩
    exact List.forall₂_map_right_iff.mpr (List.forall₂_same.mpr hvalues)

/-- The values name different parameters exactly when their hints do. -/
theorem nodup_hintOf_iff (h : ∀ value ∈ values, Hints problem value (hintOf value)) :
    ((values.map hintOf).map (·.1)).Nodup ↔
      (values.map fun value => (wordsOf value).head?).Nodup := by
  -- the first word of a value is the name in its hint
  have hheads : values.map (fun value => (wordsOf value).head?) =
      ((values.map hintOf).map (·.1)).map some := by
    rw [List.map_map, List.map_map]
    apply List.map_congr_left
    intro value hvalue
    rw [(hints_iff.mp (h value hvalue)).1]
    rfl
  have hsome : Function.Injective (some : String → Option String) := by
    intro name name' heq
    exact Option.some.inj heq
  rw [hheads, List.nodup_map_iff hsome]

/-- A parameter has a layout among the hints when a value says so. -/
theorem mem_hints_iff (h : ∀ value ∈ values, Hints problem value (hintOf value)) {name : String}
    {layout : InputLayout} :
    (name, layout) ∈ values.map hintOf ↔ ∃ value ∈ values, wordsOf value = [name, layout.text] := by
  constructor
  · intro hmem
    obtain ⟨value, hvalue, hhint⟩ := List.mem_map.mp hmem
    have hwords := (hints_iff.mp (h value hvalue)).1
    rw [hhint] at hwords
    exact ⟨value, hvalue, hwords⟩
  · rintro ⟨value, hvalue, hwords⟩
    exact List.mem_map.mpr ⟨value, hvalue, hintOf_eq hwords⟩

/-- The input lines give hints about different parameters exactly when each of them is a parameter
and one of its layouts, and no two are about one parameter. -/
theorem exists_hints_iff :
    (∃ hints, List.Forall₂ (Hints problem) values hints ∧ (hints.map (·.1)).Nodup) ↔
      (∀ value ∈ values, ∃ parameter ∈ problem.parameters,
        wordsOf value = [parameter.name, "counted"] ∨
          wordsOf value = [parameter.name, "line"] ∧
            ∃ element, parameter.type = .array element ∧ element.isScalar = true) ∧
        (values.map fun value => (wordsOf value).head?).Nodup := by
  constructor
  · rintro ⟨hints, hhints, hnodup⟩
    obtain ⟨rfl, hvalues⟩ := forall₂_hints_iff.mp hhints
    refine ⟨?_, (nodup_hintOf_iff hvalues).mp hnodup⟩
    intro value hvalue
    exact hints_hintOf_iff.mp (hvalues value hvalue)
  · rintro ⟨hwords, hnodup⟩
    have hvalues : ∀ value ∈ values, Hints problem value (hintOf value) := by
      intro value hvalue
      exact hints_hintOf_iff.mpr (hwords value hvalue)
    exact ⟨_, forall₂_hints_iff.mpr ⟨rfl, hvalues⟩, (nodup_hintOf_iff hvalues).mpr hnodup⟩

/-- The output has a layout that fits, that of its line or the default, exactly when there is at
most one line and it is a layout for the type. -/
theorem exists_outputLayout_iff {type : ValueType} :
    (∃ layout : OutputLayout, (values = [] ∧ layout = .line ∨ values = [layout.text]) ∧
        fitsOutput type layout = true) ↔
      (∀ value ∈ values, value = "line" ∨ value = "lines" ∧ ∃ element, type = .array element) ∧
        values.length ≤ 1 := by
  constructor
  · rintro ⟨layout, ⟨rfl, -⟩ | rfl, hfits⟩
    · simp
    · refine ⟨?_, Nat.le_refl 1⟩
      intro value hvalue
      rw [List.mem_singleton.mp hvalue]
      cases layout with
      | line => exact .inl rfl
      | lines => exact .inr ⟨rfl, fitsOutput_lines_iff.mp hfits⟩
  · rintro ⟨hvalues, honce⟩
    -- without a line the output has the default
    by_cases hnone : values = []
    · exact ⟨.line, .inl ⟨hnone, rfl⟩, rfl⟩
    · have hlength : values.length = 1 := by
        have hpos := List.length_pos_of_ne_nil hnone
        omega
      obtain ⟨value, rfl⟩ := List.length_eq_one_iff.mp hlength
      rcases hvalues value (List.mem_singleton_self value) with rfl | ⟨rfl, helement⟩
      · exact ⟨.line, .inr rfl, rfl⟩
      · exact ⟨.lines, .inr rfl, fitsOutput_lines_iff.mpr helement⟩

end Hints

/-! ## Layouts and values -/

section Values

variable {problem : Problem} {values : Label → List String}

/-- A problem that is declared has layouts beside it exactly when the layout lines are in order. -/
theorem exists_declaredBy_iff (h : problem.DeclaredBy values) (hsome : problem.parameters ≠ []) :
    (∃ laidOut : LaidOutProblem, laidOut.problem = problem ∧ laidOut.DeclaredBy values) ↔
      FormatsInOrder problem values := by
  constructor
  · rintro ⟨laidOut, rfl, hdeclared⟩
    obtain ⟨hints, hhints, hnodup, -⟩ := hdeclared.inputs
    obtain ⟨hinput, hinputOnce⟩ := exists_hints_iff.mp ⟨hints, hhints, hnodup⟩
    obtain ⟨houtput, houtputOnce⟩ :=
      exists_outputLayout_iff.mp ⟨_, hdeclared.output, hdeclared.fitsOutput⟩
    exact ⟨hinput, hinputOnce, houtput, houtputOnce⟩
  · intro hformats
    obtain ⟨hints, hhints, hnodup⟩ :=
      exists_hints_iff.mpr ⟨hformats.input, hformats.input_once⟩
    obtain ⟨layout, houtput, hfits⟩ :=
      exists_outputLayout_iff.mpr ⟨hformats.output, hformats.output_once⟩
    exact ⟨⟨problem, problem.parameters.map fun parameter =>
        ⟨parameter, layoutUnder hints parameter.name⟩, layout⟩, rfl,
      h, hsome, ⟨hints, hhints, hnodup, rfl⟩, houtput, hfits⟩

/-- The inputs are the parameters, each at the place of its number, and the layouts are those that
the values give. -/
theorem DeclaredBy.layouts {laidOut : LaidOutProblem} (h : laidOut.DeclaredBy values) :
    laidOut.inputs.map (·.parameter) = laidOut.problem.parameters ∧
      (∀ input ∈ laidOut.inputs, laidOut.inputs[input.parameter.order]? = some input) ∧
      (∀ input ∈ laidOut.inputs, input.layout = .line ↔
        ∃ value ∈ values .inputFormat, wordsOf value = [input.parameter.name, "line"]) ∧
      (laidOut.outputLayout = .lines ↔ "lines" ∈ values .outputFormat) := by
  obtain ⟨hints, hhints, -, hinputs⟩ := h.inputs
  obtain ⟨rfl, hvalues⟩ := forall₂_hints_iff.mp hhints
  refine ⟨?_, ?_, ?_, ?_⟩
  · rw [hinputs, List.map_map]
    exact List.map_id _
  · intro input hinput
    rw [hinputs] at hinput ⊢
    obtain ⟨parameter, hparameter, rfl⟩ := List.mem_map.mp hinput
    obtain ⟨i, hi, rfl⟩ := List.getElem_of_mem hparameter
    -- the parameters are numbered by their places
    have horder : laidOut.problem.parameters[i].order = i := by
      have horders := congrArg (·[i]?) h.problem.orders_eq
      simpa [hi] using horders
    simp [horder, hi]
  · intro input hinput
    rw [hinputs] at hinput
    obtain ⟨parameter, -, rfl⟩ := List.mem_map.mp hinput
    have hline : (parameter.name, .line) ∈ (values .inputFormat).map hintOf ↔
        ∃ value ∈ values .inputFormat, wordsOf value = [parameter.name, "line"] :=
      mem_hints_iff hvalues
    rw [← hline]
    exact layoutUnder_eq_line_iff
  · rcases h.output with ⟨hnone, hlayout⟩ | hone
    · simp [hnone, hlayout]
    · rw [hone, List.mem_singleton]
      cases laidOut.outputLayout with
      | line => decide
      | lines => decide

end Values

/-! ## Reading the layout lines -/

/-- **Which layout lines are read, and what they say.** A document that gives a problem with
parameters gives layouts as well exactly when its layout lines are in order. Then the inputs are the
parameters in their order, each at the place of its number. A parameter has the layout `line` if a
line says so, else `counted`, and the output the layout `lines` if its line says so, else `line`. -/
theorem parse_iff_formatsInOrder {text : String} {problem : Problem}
    (h : Problem.parse text = .ok problem) (hsome : problem.parameters ≠ []) :
    ((∃ laidOut, parse text = .ok laidOut) ↔
      FormatsInOrder problem (valuesOf (labelledLines text))) ∧
    ∀ laidOut, parse text = .ok laidOut →
      laidOut.problem = problem ∧
      laidOut.inputs.map (·.parameter) = problem.parameters ∧
      (∀ input ∈ laidOut.inputs, laidOut.inputs[input.parameter.order]? = some input) ∧
      (∀ input ∈ laidOut.inputs, input.layout = .line ↔
        ∃ value ∈ valuesOf (labelledLines text) .inputFormat,
          wordsOf value = [input.parameter.name, "line"]) ∧
      (laidOut.outputLayout = .lines ↔
        "lines" ∈ valuesOf (labelledLines text) .outputFormat) := by
  have hdeclared := Problem.parse_eq_ok_iff.mp h
  -- what is read with layouts is the problem that is read without them
  have hproblem : ∀ laidOut, parse text = .ok laidOut → laidOut.problem = problem := by
    intro laidOut hlaidOut
    have hread := Problem.parse_eq_ok_iff.mpr (parse_eq_ok_iff.mp hlaidOut).problem
    rw [h, Except.ok.injEq] at hread
    exact hread.symm
  constructor
  · rw [← exists_declaredBy_iff hdeclared hsome]
    constructor
    · rintro ⟨laidOut, hlaidOut⟩
      exact ⟨laidOut, hproblem laidOut hlaidOut, parse_eq_ok_iff.mp hlaidOut⟩
    · rintro ⟨laidOut, -, hlaidOut⟩
      exact ⟨laidOut, parse_eq_ok_iff.mpr hlaidOut⟩
  · intro laidOut hlaidOut
    obtain rfl := hproblem laidOut hlaidOut
    exact ⟨rfl, (parse_eq_ok_iff.mp hlaidOut).layouts⟩

/-- A document with layout lines before and behind what they are about. -/
def formattedDocument : String :=
  "\n".intercalate ["Output Format: lines", "- Input Format: \tb   line ",
    "Problem Name: \"F\"", "Function Name: f", "Input Field: a int", "Input Field: b list<str>",
    "Input Field: c int[]", "Input Format: a counted", "Output Field: int[][]"]

/-- The same with a second line for one parameter. -/
def overformattedDocument : String :=
  formattedDocument ++ "\nInput Format: b counted"

/-- The problem of both documents. -/
def formattedProblem : Problem where
  name := "F"
  functionName := "f"
  parameters := [⟨"a", .integer, 0⟩, ⟨"b", .array .string, 1⟩, ⟨"c", .array .integer, 2⟩]
  returnType := .array (.array .integer)
  outputName := "result"

theorem parse_iff_formatsInOrder_formatted :
    (Problem.parse formattedDocument = .ok formattedProblem ∧
      ∃ laidOut, parse formattedDocument = .ok laidOut ∧
        laidOut.inputs.map (·.parameter) = formattedProblem.parameters) ∧
    Problem.parse overformattedDocument = .ok formattedProblem ∧
      ¬ ∃ laidOut, parse overformattedDocument = .ok laidOut := by
  have hparse : Problem.parse formattedDocument = .ok formattedProblem := by
    apply eq_ok_of_toOption
    rw [Problem.parse, labelledLines, formattedDocument, String.toList_intercalate]
    decide +kernel
  have hoverparse : Problem.parse overformattedDocument = .ok formattedProblem := by
    apply eq_ok_of_toOption
    rw [Problem.parse, labelledLines, overformattedDocument, formattedDocument,
      String.toList_append, String.toList_intercalate]
    decide +kernel
  have hvalues : valuesOf (labelledLines formattedDocument) .inputFormat =
        ["b   line", "a counted"] ∧
      valuesOf (labelledLines formattedDocument) .outputFormat = ["lines"] := by
    rw [labelledLines, formattedDocument, String.toList_intercalate]
    decide +kernel
  have hovervalues : valuesOf (labelledLines overformattedDocument) .inputFormat =
      ["b   line", "a counted", "b counted"] := by
    rw [labelledLines, overformattedDocument, formattedDocument, String.toList_append,
      String.toList_intercalate]
    decide +kernel
  obtain ⟨hiff, hlayouts⟩ := parse_iff_formatsInOrder hparse (by decide)
  have hformats : FormatsInOrder formattedProblem (valuesOf (labelledLines formattedDocument)) := by
    refine ⟨?_, ?_, ?_, ?_⟩
    · rw [hvalues.1]
      intro value hvalue
      rcases List.mem_pair.mp hvalue with rfl | rfl
      · exact ⟨⟨"b", .array .string, 1⟩, by decide, .inr ⟨by decide, .string, rfl, rfl⟩⟩
      · exact ⟨⟨"a", .integer, 0⟩, by decide, .inl (by decide)⟩
    · rw [hvalues.1]
      decide
    · rw [hvalues.2]
      intro value hvalue
      exact .inr ⟨List.mem_singleton.mp hvalue, _, rfl⟩
    · rw [hvalues.2]
      decide
  obtain ⟨laidOut, hlaidOut⟩ := hiff.mpr hformats
  refine ⟨⟨hparse, laidOut, hlaidOut, (hlayouts laidOut hlaidOut).2.1⟩, hoverparse, ?_⟩
  -- two lines begin with the same name
  intro hread
  have honce := ((parse_iff_formatsInOrder hoverparse (by decide)).1.mp hread).input_once
  rw [hovervalues] at honce
  exact absurd honce (by decide)

end LaidOutProblem

end StarterCode
