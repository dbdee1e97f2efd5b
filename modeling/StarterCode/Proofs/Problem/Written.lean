import StarterCode.Proofs.Problem.Declared

/-!
# Documents that are written out

A document can be written for every problem whose names and types a document can hold: one line each
for the names of problem and function, one for each parameter, and one for what is returned.
`Declaration` collects what goes into the lines, with what it takes for them to be read: names that
are identifiers and differ from each other, type expressions, and nothing that would end a line.
The document is then read as the problem that was meant.

Nothing is asked of a parameter's name beyond that, so it may be a keyword. A name for the returned
value must not be one: with a keyword in front, the value could be a type expression again.
-/

set_option autoImplicit false

namespace StarterCode

open Document

namespace Problem

/-! ## Declarations -/

/-- A parameter as its line declares it. -/
structure WrittenParameter where
  /-- The name. -/
  name : String
  /-- The type expression. -/
  source : String
  /-- The type that it denotes. -/
  type : ValueType
  isIdentifier_name : Text.isIdentifier name.toList = true
  parse_source : TypeExpr.parse source.toList = .ok type
  newline_not_mem : '\n' ∉ source.toList

/-- What a document declares, each part as it is written. -/
structure Declaration where
  /-- The name of the problem. -/
  name : String
  /-- The name of the function. -/
  functionName : String
  /-- The parameters in order. -/
  parameters : List WrittenParameter
  /-- The name of the returned value, if it is to have one. -/
  outputName : Option String
  /-- The type expression of the returned value. -/
  returnSource : String
  /-- The type that it denotes. -/
  returnType : ValueType
  name_not_blank : ∃ c ∈ name.toList, Text.isBlank c = false
  newline_not_mem_name : '\n' ∉ name.toList
  isIdentifier_functionName : Text.isIdentifier functionName.toList = true
  names_nodup : (parameters.map (·.name)).Nodup
  outputName_free : ∀ output ∈ outputName, Text.isIdentifier output.toList = true ∧
    Keyword.ofWord? output.toList = none ∧ output ∉ parameters.map (·.name)
  parse_returnSource : TypeExpr.parse returnSource.toList = .ok returnType
  newline_not_mem_returnSource : '\n' ∉ returnSource.toList

namespace Declaration

/-- What stands behind the label of the returned value. -/
def outputValue (declaration : Declaration) : String :=
  match declaration.outputName with
  | none => declaration.returnSource
  | some name => name ++ " " ++ declaration.returnSource

/-- The entries of the document. -/
def entries (declaration : Declaration) : List (Label × String) :=
  (.problemName, "\"" ++ declaration.name ++ "\"") ::
    (.functionName, declaration.functionName) ::
    (declaration.parameters.map fun parameter =>
      (.inputField, parameter.name ++ " " ++ parameter.source)) ++
    [(.outputField, declaration.outputValue)]

/-- The document. -/
def text (declaration : Declaration) : String :=
  written declaration.entries

/-- The problem that is meant. -/
def problem (declaration : Declaration) : Problem where
  name := declaration.name
  functionName := declaration.functionName
  parameters := declaration.parameters.mapIdx fun order parameter =>
    ⟨parameter.name, parameter.type, order⟩
  returnType := declaration.returnType
  outputName := declaration.outputName.getD
    (defaultOutputName (declaration.parameters.map (·.name)))

end Declaration

/-! ## Values -/

theorem newline_not_mem_of_isIdentifier {name : List Char} (h : Text.isIdentifier name = true) :
    '\n' ∉ name := by
  intro hmem
  exact absurd (Text.all_isNameChar_of_isIdentifier h '\n' hmem) (by decide)

/-- A name and a type expression with a blank between them are a declaration. -/
theorem declares_trim {name source : String} {type : ValueType}
    (hname : Text.isIdentifier name.toList = true)
    (htype : TypeExpr.parse source.toList = .ok type) :
    Declares (String.ofList (Text.trim (name ++ " " ++ source).toList)) name type := by
  have hblank := Text.not_isBlank_of_isIdentifier hname
  have htext : (name ++ " " ++ source).toList = name.toList ++ ' ' :: source.toList := by
    rw [String.toList_append, String.toList_append, List.append_assoc]
    rfl
  have hsplit : Text.splitFirstWord
      (String.ofList (Text.trim (name ++ " " ++ source).toList)).toList =
        (name.toList, Text.trim source.toList) := by
    rw [String.toList_ofList, Text.splitFirstWord_trim, htext]
    exact Text.splitFirstWord_append (Text.ne_nil_of_isIdentifier hname) hblank (by decide) _
  have htrim : Text.trim (String.ofList (Text.trim (name ++ " " ++ source).toList)).toList =
      (String.ofList (Text.trim (name ++ " " ++ source).toList)).toList := by
    rw [String.toList_ofList, Text.trim_trim]
  refine (declares_iff htrim).mpr ⟨hname, by rw [hsplit], ?_⟩
  rw [hsplit, TypeExpr.parse_trim, htype]

namespace Declaration

variable (declaration : Declaration)

theorem newline_not_mem_entries :
    ∀ entry ∈ declaration.entries, '\n' ∉ entry.2.toList := by
  have hname := declaration.newline_not_mem_name
  have hfunction := newline_not_mem_of_isIdentifier declaration.isIdentifier_functionName
  have hsource := declaration.newline_not_mem_returnSource
  intro entry hentry
  simp only [entries, List.cons_append, List.mem_cons, List.mem_append, List.mem_map,
    List.not_mem_nil, or_false] at hentry
  rcases hentry with rfl | rfl | ⟨parameter, -, rfl⟩ | rfl
  · simpa [String.toList_append] using hname
  · exact hfunction
  · have hparameter := newline_not_mem_of_isIdentifier parameter.isIdentifier_name
    simpa [String.toList_append, hparameter] using parameter.newline_not_mem
  · rw [outputValue]
    cases houtput : declaration.outputName with
    | none => exact hsource
    | some name =>
      have houtput := newline_not_mem_of_isIdentifier (declaration.outputName_free name houtput).1
      simpa [String.toList_append, houtput] using hsource

/-- The values behind a label, as they are read. -/
def values (label : Label) : List String :=
  (declaration.entries.filter (·.1 == label)).map fun entry =>
    String.ofList (Text.trim entry.2.toList)

theorem values_problemName :
    declaration.values .problemName = ["\"" ++ declaration.name ++ "\""] := by
  have hfilter : declaration.entries.filter (·.1 == .problemName) =
      [(.problemName, "\"" ++ declaration.name ++ "\"")] := by
    simp [entries, List.filter_map, Function.comp_def]
  have htext : ("\"" ++ declaration.name ++ "\"").toList =
      '"' :: (declaration.name.toList ++ ['"']) := by
    rw [String.toList_append, String.toList_append]
    rfl
  rw [values, hfilter, List.map_singleton, htext, Text.trim_enclosed (by decide) (by decide),
    ← htext, String.ofList_toList]

theorem values_functionName :
    declaration.values .functionName = [declaration.functionName] := by
  have hfilter : declaration.entries.filter (·.1 == .functionName) =
      [(.functionName, declaration.functionName)] := by
    simp [entries, List.filter_map, Function.comp_def]
  have hblank := Text.not_isBlank_of_isIdentifier declaration.isIdentifier_functionName
  rw [values, hfilter, List.map_singleton, Text.trim_of_not_isBlank hblank, String.ofList_toList]

theorem values_inputField :
    declaration.values .inputField = declaration.parameters.map fun parameter =>
      String.ofList (Text.trim (parameter.name ++ " " ++ parameter.source).toList) := by
  have hfilter : declaration.entries.filter (·.1 == .inputField) =
      declaration.parameters.map fun parameter =>
        (.inputField, parameter.name ++ " " ++ parameter.source) := by
    simp [entries, List.filter_map, Function.comp_def]
  rw [values, hfilter, List.map_map]
  rfl

theorem values_outputField :
    declaration.values .outputField =
      [String.ofList (Text.trim declaration.outputValue.toList)] := by
  have hfilter : declaration.entries.filter (·.1 == .outputField) =
      [(.outputField, declaration.outputValue)] := by
    simp [entries, List.filter_map, Function.comp_def]
  rw [values, hfilter, List.map_singleton]

theorem names_eq :
    declaration.problem.parameters.map (·.name) = declaration.parameters.map (·.name) := by
  refine List.ext_getElem (by simp [problem]) ?_
  intro i hi hi'
  simp [problem]

theorem declaresOutput :
    DeclaresOutput (declaration.parameters.map (·.name))
      (String.ofList (Text.trim declaration.outputValue.toList)) declaration.problem.outputName
      declaration.returnType := by
  rw [outputValue, problem]
  cases houtput : declaration.outputName with
  | none =>
    refine .unnamed ?_
    rw [String.toList_ofList, TypeExpr.parse_trim, declaration.parse_returnSource]
  | some name =>
    obtain ⟨hidentifier, hkeyword, hfree⟩ := declaration.outputName_free name houtput
    exact .named (declares_trim hidentifier declaration.parse_returnSource) hkeyword hfree

/-- What is written declares the problem that is meant. -/
theorem declaredBy : declaration.problem.DeclaredBy declaration.values where
  name_eq := declaration.values_problemName
  name_not_blank := declaration.name_not_blank
  functionName_eq := declaration.values_functionName
  isIdentifier_functionName := declaration.isIdentifier_functionName
  parameters := by
    rw [values_inputField, List.forall₂_map_left_iff, List.forall₂_iff_get]
    refine ⟨List.length_mapIdx.symm, ?_⟩
    intro i hi hi'
    have hdeclares := declares_trim (declaration.parameters.get ⟨i, hi⟩).isIdentifier_name
      (declaration.parameters.get ⟨i, hi⟩).parse_source
    simpa [problem] using hdeclares
  orders_eq := by
    refine List.ext_getElem (by simp) ?_
    intro i hi hi'
    simp [problem]
  names_nodup := by
    rw [names_eq]
    exact declaration.names_nodup
  output := by
    rw [values_outputField, names_eq]
    exact ⟨_, rfl, declaration.declaresOutput⟩

end Declaration

/-- **What is written is read.** A document that is written for a problem is read as that problem,
with a line feed at its end or without. -/
theorem parse_text (declaration : Declaration) :
    parse declaration.text = .ok declaration.problem ∧
      parse (declaration.text ++ "\n") = .ok declaration.problem := by
  have hvalues := fun label => valuesOf_written declaration.newline_not_mem_entries label
  constructor
  · have hread : valuesOf (labelledLines declaration.text) = declaration.values :=
      funext fun label => (hvalues label).1
    rw [parse_eq_ok_iff, hread]
    exact declaration.declaredBy
  · have hread : valuesOf (labelledLines (declaration.text ++ "\n")) = declaration.values :=
      funext fun label => (hvalues label).2
    rw [parse_eq_ok_iff, hread]
    exact declaration.declaredBy

/-- A problem with quotes in its name, keywords for parameters and a name for what is returned. -/
def quotedDeclaration : Declaration where
  name := "\"x\" or \"y\""
  functionName := "f_1"
  parameters := [
    ⟨"int", "list of Node", .array (.custom "Node"), by decide,
      eq_ok_of_toOption (by decide +kernel), by decide⟩,
    ⟨"pair", " int[] ", .array .integer, by decide, eq_ok_of_toOption (by decide +kernel),
      by decide⟩]
  outputName := some "answer"
  returnSource := "tuple of a, b and c"
  returnType := .tuple [.custom "a", .custom "b", .custom "c"]
  name_not_blank := ⟨'x', by decide, by decide⟩
  newline_not_mem_name := by decide
  isIdentifier_functionName := by decide
  names_nodup := by decide
  outputName_free := by
    rintro _ ⟨⟩
    exact ⟨by decide, by decide, by decide⟩
  parse_returnSource := eq_ok_of_toOption (by decide +kernel)
  newline_not_mem_returnSource := by decide

theorem parse_text_quoted :
    quotedDeclaration.text = "Problem Name: \"\"x\" or \"y\"\"\nFunction Name: f_1\n" ++
        "Input Field: int list of Node\nInput Field: pair  int[] \n" ++
        "Output Field: answer tuple of a, b and c" ∧
      parse quotedDeclaration.text = .ok
        ⟨"\"x\" or \"y\"", "f_1",
          [⟨"int", .array (.custom "Node"), 0⟩, ⟨"pair", .array .integer, 1⟩],
          .tuple [.custom "a", .custom "b", .custom "c"], "answer"⟩ :=
  ⟨by decide +kernel, (parse_text quotedDeclaration).1⟩

end Problem

end StarterCode
