import StarterCode.Proofs.Document.Entries
import StarterCode.Proofs.Problem.OutputName
import StarterCode.Proofs.Problem.Parts
import StarterCode.Proofs.TypeExpr.Surroundings

/-!
# What a document declares to be its problem

The reader goes through the lines, keeps what it has read so far and stops at the first thing that
is wrong. `Problem.DeclaredBy` says what comes out without all of this: it looks at the values
behind each label and says which of them belong to which part of the problem. Line numbers and the
order of lines with different labels have no place in it.

The reader answers with a problem exactly when the values declare that problem
(`Problem.parse_eq_ok_iff`). The proof takes the parts one by one. Two of them need an argument:

* The value of the output line may begin with a name or not, and the reader decides by trying the
  whole value as a type. That the two ways exclude each other is the lemma on names in front of type
  expressions.
* The parameters are read one after the other against those read before, so the statement that goes
  through the induction is about what is added to the earlier ones.
-/

set_option autoImplicit false

namespace StarterCode

namespace Problem

/-! ## The declaration -/

/-- The value is a name and a type expression: its first word is the name, and what stands behind
that denotes the type. -/
structure Declares (value name : String) (type : ValueType) : Prop where
  isIdentifier : Text.isIdentifier name.toList = true
  head?_words : (Text.words value.toList).head? = some name.toList
  exists_rest : ∃ rest, value.toList = name.toList ++ rest ∧ TypeExpr.parse rest = .ok type

/-- The value declares what is returned. Without a name it is a type expression; with a name it
declares this name, which is no keyword and not taken. -/
inductive DeclaresOutput (taken : List String) (value : String) : String → ValueType → Prop where
  | unnamed {type : ValueType} (h : TypeExpr.parse value.toList = .ok type) :
    DeclaresOutput taken value (defaultOutputName taken) type
  | named {name : String} {type : ValueType} (h : Declares value name type)
    (hkeyword : Keyword.ofWord? name.toList = none) (hfree : name ∉ taken) :
    DeclaresOutput taken value name type

/-- The values behind the labels declare the problem. The names of problem and function and what is
returned have one line each, the parameters have one line each in their order. -/
structure DeclaredBy (problem : Problem) (values : Label → List String) : Prop where
  name_eq : values .problemName = ["\"" ++ problem.name ++ "\""]
  name_not_blank : ∃ c ∈ problem.name.toList, Text.isBlank c = false
  functionName_eq : values .functionName = [problem.functionName]
  isIdentifier_functionName : Text.isIdentifier problem.functionName.toList = true
  parameters : List.Forall₂ (fun value parameter => Declares value parameter.name parameter.type)
    (values .inputField) problem.parameters
  orders_eq : problem.parameters.map (·.order) = List.range problem.parameters.length
  names_nodup : (problem.parameters.map (·.name)).Nodup
  output : ∃ value, values .outputField = [value] ∧
    DeclaresOutput (problem.parameters.map (·.name)) value problem.outputName problem.returnType

/-! ## Lines -/

theorem onlyLine_eq_ok {label : Label} {lines : List LabelledLine} {line : LabelledLine} :
    onlyLine label lines = .ok line ↔ lines.filter (·.label == label) = [line] := by
  unfold onlyLine
  split
  · next hnone => simp [hnone, Label.fail]
  · next only honly => simp [honly]
  · next first second rest hmore => simp [hmore, LabelledLine.fail]

theorem unquoted?_eq_some {text inner : List Char} :
    unquoted? text = some inner ↔ text = '"' :: (inner ++ ['"']) := by
  rw [unquoted?, Option.bind_eq_bind, Option.bind_eq_some_iff]
  constructor
  · rintro ⟨rest, hrest, hinner⟩
    rw [← List.isPrefixOf?_eq_some_iff_append_eq.mp hrest,
      ← List.isSuffixOf?_eq_some_iff_append_eq.mp hinner]
    rfl
  · intro htext
    refine ⟨inner ++ ['"'], ?_, List.isSuffixOf?_eq_some_iff_append_eq.mpr rfl⟩
    exact List.isPrefixOf?_eq_some_iff_append_eq.mpr htext.symm

theorem readName_eq_ok {line : LabelledLine} {name : String} :
    readName line = .ok name ↔
      line.value = "\"" ++ name ++ "\"" ∧ ∃ c ∈ name.toList, Text.isBlank c = false := by
  have hquoted : line.value = "\"" ++ name ++ "\"" ↔
      line.value.toList = '"' :: (name.toList ++ ['"']) := by
    rw [← String.toList_inj, String.toList_append, String.toList_append]
    rfl
  rw [hquoted, ← Text.trim_ne_nil_iff, readName]
  cases hunquoted : unquoted? line.value.toList with
  | none =>
    refine ⟨nofun, ?_⟩
    rintro ⟨hvalue, -⟩
    rw [unquoted?_eq_some.mpr hvalue] at hunquoted
    cases hunquoted
  | some inner =>
    rw [unquoted?_eq_some.mp hunquoted]
    by_cases hblank : Text.trim inner = []
    · simp only [hblank, List.isEmpty_nil, if_true]
      refine ⟨nofun, ?_⟩
      rintro ⟨hvalue, hname⟩
      have hinner : inner = name.toList := by simpa using hvalue
      exact absurd (hinner ▸ hblank) hname
    · simp only [List.isEmpty_iff, hblank, if_false, Except.ok.injEq]
      constructor
      · rintro rfl
        rw [String.toList_ofList]
        exact ⟨rfl, hblank⟩
      · rintro ⟨hvalue, -⟩
        have hinner : inner = name.toList := by simpa using hvalue
        rw [hinner, String.ofList_toList]

theorem readFunctionName_eq_ok {line : LabelledLine} {name : String} :
    readFunctionName line = .ok name ↔
      line.value = name ∧ Text.isIdentifier name.toList = true := by
  unfold readFunctionName
  constructor
  · intro h
    split at h
    · cases h
    · split at h
      · next hidentifier =>
        cases h
        exact ⟨rfl, hidentifier⟩
      · cases h
  · rintro ⟨rfl, hidentifier⟩
    have hsome : ¬ line.value.isEmpty = true := by
      intro hempty
      have hvalue : line.value = "" := String.isEmpty_iff.mp hempty
      rw [hvalue] at hidentifier
      exact absurd hidentifier (by decide)
    rw [if_neg hsome, if_pos hidentifier]

theorem readFieldType_eq_ok {source : List Char} {number : Nat} {field : String}
    {type : ValueType} :
    readFieldType source number field = .ok type ↔ TypeExpr.parse source = .ok type := by
  unfold readFieldType
  split
  · next found hfound => rw [hfound, Except.ok.injEq, Except.ok.injEq]
  · next error herror => simp [herror]

/-! ## Names and types -/

/-- What a trimmed value declares is found where the reader looks for it. -/
theorem declares_iff {value name : String} {type : ValueType}
    (h : Text.trim value.toList = value.toList) :
    Declares value name type ↔ Text.isIdentifier name.toList = true ∧
      (Text.splitFirstWord value.toList).1 = name.toList ∧
      TypeExpr.parse (Text.splitFirstWord value.toList).2 = .ok type := by
  obtain ⟨rest, hvalue, hrest, -⟩ := Text.exists_rest_splitFirstWord h
  have hparse : TypeExpr.parse (Text.splitFirstWord value.toList).2 = TypeExpr.parse rest := by
    rw [← hrest, TypeExpr.parse_trim]
  rw [hparse]
  constructor
  · rintro ⟨hidentifier, hhead, rest', hvalue', htype⟩
    have hne : value.toList ≠ [] := by
      intro hnil
      rw [hnil] at hhead
      cases hhead
    have hname : (Text.splitFirstWord value.toList).1 = name.toList := by
      rw [Text.head?_words h hne] at hhead
      exact Option.some.inj hhead
    rw [hname, hvalue'] at hvalue
    rw [← List.append_cancel_left hvalue]
    exact ⟨hidentifier, hname, htype⟩
  · rintro ⟨hidentifier, hname, htype⟩
    rw [hname] at hvalue
    have hne : value.toList ≠ [] := by
      rw [hvalue]
      exact List.append_ne_nil_of_left_ne_nil (Text.ne_nil_of_isIdentifier hidentifier) rest
    exact ⟨hidentifier, by rw [Text.head?_words h hne, hname], rest, hvalue, htype⟩

/-- Behind the name that a trimmed value declares there is a blank. -/
theorem Declares.exists_blank {value name : String} {type : ValueType}
    (h : Declares value name type) (htrim : Text.trim value.toList = value.toList) :
    ∃ c rest, value.toList = name.toList ++ c :: rest ∧ Text.isBlank c = true ∧
      TypeExpr.parse (c :: rest) = .ok type := by
  obtain ⟨rest, hvalue, -, hblank⟩ := Text.exists_rest_splitFirstWord htrim
  obtain ⟨rest', hvalue', htype⟩ := h.exists_rest
  rw [((declares_iff htrim).mp h).2.1, hvalue'] at hvalue
  rw [← List.append_cancel_left hvalue] at hblank
  cases rest' with
  | nil => cases htype
  | cons c rest' => exact ⟨c, rest', hvalue', hblank c rfl, htype⟩

/-- A value that declares a name does not denote a type. -/
theorem Declares.exists_error {value name : String} {type : ValueType}
    (h : Declares value name type) (htrim : Text.trim value.toList = value.toList)
    (hkeyword : Keyword.ofWord? name.toList = none) :
    ∃ error, TypeExpr.parse value.toList = .error error := by
  obtain ⟨c, rest, hvalue, hblank, htype⟩ := h.exists_blank htrim
  rw [hvalue]
  exact TypeExpr.exists_parse_append_eq_error h.isIdentifier hkeyword hblank htype

theorem isEmpty_of_parse {source : List Char} {type : ValueType}
    (h : TypeExpr.parse source = .ok type) : source.isEmpty = false := by
  cases source with
  | nil => cases h
  | cons c source => rfl

theorem readParameter_eq_ok {order : Nat} {line : LabelledLine} {parameter : Parameter}
    (htrim : Text.trim line.value.toList = line.value.toList) :
    readParameter order line = .ok parameter ↔
      Declares line.value parameter.name parameter.type ∧ parameter.order = order := by
  rw [declares_iff htrim, readParameter]
  constructor
  · intro h
    simp only at h
    split at h
    · cases h
    · split at h
      · cases h
      · next hidentifier =>
        split at h
        · cases h
        · obtain ⟨type, htype, h⟩ := bind_eq_ok.mp h
          cases h
          rw [Bool.not_eq_true', Bool.not_eq_false] at hidentifier
          rw [String.toList_ofList]
          exact ⟨⟨hidentifier, rfl, readFieldType_eq_ok.mp htype⟩, rfl⟩
  · rintro ⟨⟨hidentifier, hname, htype⟩, rfl⟩
    have hsome : parameter.name.toList.isEmpty = false :=
      List.isEmpty_eq_false_iff.mpr (Text.ne_nil_of_isIdentifier hidentifier)
    simp only [hname, hsome, hidentifier, isEmpty_of_parse htype, Bool.not_true,
      Bool.false_eq_true, if_false, String.ofList_toList]
    exact bind_eq_ok.mpr ⟨_, readFieldType_eq_ok.mpr htype, rfl⟩

/-! ## Parameters -/

/-- The first of several lines is read against the parameters read earlier. -/
theorem readParametersAfter_cons {earlier parameters : List Parameter} {line : LabelledLine}
    {rest : List LabelledLine} :
    readParametersAfter earlier (line :: rest) = .ok parameters ↔
      ∃ parameter, readParameter earlier.length line = .ok parameter ∧
        parameter.name ∉ earlier.map (·.name) ∧
        readParametersAfter (earlier ++ [parameter]) rest = .ok parameters := by
  have hany : ∀ name, earlier.any (·.name == name) = true ↔ name ∈ earlier.map (·.name) := by
    simp [List.any_eq_true, List.mem_map]
  rw [readParametersAfter, bind_eq_ok]
  refine exists_congr fun parameter => and_congr_right fun _ => ?_
  by_cases htaken : earlier.any (·.name == parameter.name) = true
  · rw [if_pos htaken]
    exact ⟨nofun, fun h => absurd ((hany _).mp htaken) h.1⟩
  · rw [if_neg htaken]
    exact ⟨fun h => ⟨fun hmem => htaken ((hany _).mpr hmem), h⟩, And.right⟩

theorem length_of_readParametersAfter {earlier parameters : List Parameter}
    {lines : List LabelledLine} (h : readParametersAfter earlier lines = .ok parameters) :
    parameters.length = earlier.length + lines.length := by
  induction lines generalizing earlier with
  | nil =>
    cases h
    rfl
  | cons line rest ih =>
    obtain ⟨parameter, -, -, h⟩ := readParametersAfter_cons.mp h
    rw [ih h, List.length_append, List.length_singleton, List.length_cons, Nat.add_assoc,
      Nat.add_comm 1]

/-- What the lines add to the parameters read earlier: one parameter each, numbered on, with a name
of its own. -/
theorem readParametersAfter_eq_ok {earlier parameters : List Parameter}
    {lines : List LabelledLine}
    (htrim : ∀ line ∈ lines, Text.trim line.value.toList = line.value.toList)
    (hearlier : (earlier.map (·.name)).Nodup) :
    readParametersAfter earlier lines = .ok parameters ↔
      ∃ added, parameters = earlier ++ added ∧
        List.Forall₂ (fun line parameter => Declares line.value parameter.name parameter.type)
          lines added ∧
        added.map (·.order) = List.range' earlier.length added.length ∧
        (parameters.map (·.name)).Nodup := by
  induction lines generalizing earlier with
  | nil =>
    constructor
    · intro h
      cases h
      exact ⟨[], (List.append_nil _).symm, .nil, rfl, hearlier⟩
    · rintro ⟨added, rfl, hadded, -, -⟩
      cases hadded
      rw [List.append_nil]
      rfl
  | cons line rest ih =>
    have hline := htrim line List.mem_cons_self
    have hrest : ∀ line ∈ rest, Text.trim line.value.toList = line.value.toList :=
      fun other hother => htrim other (List.mem_cons_of_mem _ hother)
    rw [readParametersAfter_cons]
    constructor
    · rintro ⟨parameter, hparameter, hnew, h⟩
      -- the rest is read against the earlier parameters and this one
      obtain ⟨hdeclares, horder⟩ := (readParameter_eq_ok hline).mp hparameter
      have hboth : ((earlier ++ [parameter]).map (·.name)).Nodup :=
        nodup_map_concat.mpr ⟨hnew, hearlier⟩
      obtain ⟨added, hparameters, hadded, horders, hnodup⟩ := (ih hrest hboth).mp h
      refine ⟨parameter :: added, ?_, .cons hdeclares hadded, ?_, hnodup⟩
      · rw [hparameters, List.append_assoc, List.singleton_append]
      · rw [List.map_cons, horders, horder, List.length_append, List.length_singleton,
          List.length_cons, List.range'_succ]
    · rintro ⟨_, hparameters, hall, horders, hnodup⟩
      obtain ⟨parameter, added, hdeclares, hadded, rfl⟩ := List.forall₂_cons_left_iff.mp hall
      rw [List.map_cons, List.length_cons, List.range'_succ, List.cons.injEq] at horders
      have hsplit : parameters = (earlier ++ [parameter]) ++ added := by
        rw [hparameters, List.append_assoc, List.singleton_append]
      have hboth : ((earlier ++ [parameter]).map (·.name)).Nodup := by
        rw [hsplit, List.map_append] at hnodup
        exact hnodup.of_append_left
      refine ⟨parameter, (readParameter_eq_ok hline).mpr ⟨hdeclares, horders.1⟩,
        (nodup_map_concat.mp hboth).1, ?_⟩
      refine (ih hrest hboth).mpr ⟨added, hsplit, hadded, ?_, hnodup⟩
      rw [horders.2, List.length_append, List.length_singleton]

/-! ## The returned value -/

theorem readOutput_eq_ok {line : LabelledLine} {declared : Option String} {type : ValueType}
    (htrim : Text.trim line.value.toList = line.value.toList) :
    readOutput line = .ok (declared, type) ↔
      declared = none ∧ TypeExpr.parse line.value.toList = .ok type ∨
      ∃ name, declared = some name ∧ Declares line.value name type ∧
        Keyword.ofWord? name.toList = none := by
  cases hparse : TypeExpr.parse line.value.toList with
  | ok found =>
    simp only [readOutput, hparse, Except.ok.injEq, Prod.mk.injEq]
    constructor
    · rintro ⟨rfl, rfl⟩
      exact .inl ⟨rfl, rfl⟩
    · rintro (⟨rfl, rfl⟩ | ⟨name, -, hdeclares, hkeyword⟩)
      · exact ⟨rfl, rfl⟩
      · -- the value would be a type expression with a name in front of one
        obtain ⟨error, herror⟩ := hdeclares.exists_error htrim hkeyword
        rw [hparse] at herror
        cases herror
  | error error =>
    simp only [readOutput, hparse]
    constructor
    · intro h
      split at h
      · cases h
      · next hchecks =>
        obtain ⟨found, hfound, h⟩ := bind_eq_ok.mp h
        cases h
        simp only [Bool.or_eq_true, not_or, Bool.not_eq_true, Bool.not_eq_false',
          Option.isSome_eq_false_iff, Option.isNone_iff_eq_none] at hchecks
        refine .inr ⟨_, rfl, (declares_iff htrim).mpr ⟨?_, ?_, readFieldType_eq_ok.mp hfound⟩, ?_⟩
        · rw [String.toList_ofList]
          exact hchecks.2
        · rw [String.toList_ofList]
        · rw [String.toList_ofList]
          exact hchecks.1.2
    · rintro (⟨-, h⟩ | ⟨name, rfl, hdeclares, hkeyword⟩)
      · cases h
      · obtain ⟨hidentifier, hname, htype⟩ := (declares_iff htrim).mp hdeclares
        simp only [hname, hidentifier, isEmpty_of_parse htype, hkeyword, Option.isSome_none,
          Bool.or_self, Bool.not_true, Bool.false_eq_true, if_false, String.ofList_toList]
        exact bind_eq_ok.mpr ⟨_, readFieldType_eq_ok.mpr htype, rfl⟩

theorem outputNameFor_eq_ok {line : LabelledLine} {taken : List String} {declared : Option String}
    {name : String} :
    outputNameFor line taken declared = .ok name ↔
      declared = none ∧ name = defaultOutputName taken ∨ declared = some name ∧ name ∉ taken := by
  cases declared with
  | none =>
    rw [outputNameFor, Except.ok.injEq]
    exact ⟨fun h => .inl ⟨rfl, h.symm⟩, fun h => h.elim (fun h => h.2.symm) nofun⟩
  | some declared =>
    rw [outputNameFor]
    by_cases htaken : taken.contains declared = true
    · rw [if_pos htaken]
      refine ⟨nofun, ?_⟩
      rintro (⟨h, -⟩ | ⟨h, hfree⟩)
      · cases h
      · cases h
        exact absurd (List.contains_iff_mem.mp htaken) hfree
    · rw [if_neg htaken, Except.ok.injEq]
      constructor
      · rintro rfl
        exact .inr ⟨rfl, fun hmem => htaken (List.contains_iff_mem.mpr hmem)⟩
      · rintro (⟨h, -⟩ | ⟨h, -⟩)
        · cases h
        · exact Option.some.inj h

/-- What is returned, its name and its type together. -/
theorem readOutput_outputNameFor_eq_ok {line : LabelledLine} {taken : List String} {name : String}
    {type : ValueType} (htrim : Text.trim line.value.toList = line.value.toList) :
    (∃ declared, readOutput line = .ok (declared, type) ∧
      outputNameFor line taken declared = .ok name) ↔
      DeclaresOutput taken line.value name type := by
  constructor
  · rintro ⟨declared, hread, hname⟩
    rcases (readOutput_eq_ok htrim).mp hread with
      ⟨rfl, htype⟩ | ⟨declaredName, rfl, hdeclares, hkeyword⟩
    · rcases outputNameFor_eq_ok.mp hname with ⟨-, rfl⟩ | ⟨h, -⟩
      · exact .unnamed htype
      · cases h
    · rcases outputNameFor_eq_ok.mp hname with ⟨h, -⟩ | ⟨h, hfree⟩
      · cases h
      · cases h
        exact .named hdeclares hkeyword hfree
  · intro h
    cases h with
    | unnamed htype =>
      exact ⟨none, (readOutput_eq_ok htrim).mpr (.inl ⟨rfl, htype⟩),
        outputNameFor_eq_ok.mpr (.inl ⟨rfl, rfl⟩)⟩
    | named hdeclares hkeyword hfree =>
      exact ⟨some name, (readOutput_eq_ok htrim).mpr (.inr ⟨name, rfl, hdeclares, hkeyword⟩),
        outputNameFor_eq_ok.mpr (.inr ⟨rfl, hfree⟩)⟩

/-! ## The whole problem -/

/-- What is read from trimmed lines is what their values declare. A program needs a parameter. -/
theorem ofLines_eq_ok_iff {mode : Mode} {lines : List LabelledLine} {problem : Problem}
    (htrim : ∀ line ∈ lines, Text.trim line.value.toList = line.value.toList) :
    ofLines mode lines = .ok problem ↔
      problem.DeclaredBy (Document.valuesOf lines) ∧
        ¬ (mode = .program ∧ problem.parameters = []) := by
  have htrim' : ∀ label, ∀ line ∈ lines.filter (·.label == label),
      Text.trim line.value.toList = line.value.toList :=
    fun label line hline => htrim line (List.mem_of_mem_filter hline)
  have hnone : (([] : List Parameter).map (·.name)).Nodup := .nil
  rw [ofLines_eq_ok]
  constructor
  · rintro ⟨nameLine, functionLine, outputLine, declared, hnameLine, hname, hfunctionLine,
      hfunctionName, hparameters, hsome, houtputLine, houtput, houtputName⟩
    rw [onlyLine_eq_ok] at hnameLine hfunctionLine houtputLine
    obtain ⟨hname, hnotBlank⟩ := readName_eq_ok.mp hname
    obtain ⟨hfunctionName, hidentifier⟩ := readFunctionName_eq_ok.mp hfunctionName
    obtain ⟨added, hadded, hdeclares, horders, hnodup⟩ :=
      (readParametersAfter_eq_ok (htrim' .inputField) hnone).mp hparameters
    rw [List.nil_append] at hadded
    subst hadded
    have houtputTrim : Text.trim outputLine.value.toList = outputLine.value.toList :=
      htrim' .outputField outputLine (houtputLine ▸ List.mem_singleton_self _)
    refine ⟨⟨?_, hnotBlank, ?_, hidentifier, ?_, ?_, hnodup, ?_⟩, hsome⟩
    · exact Document.valuesOf_eq_singleton_iff.mpr ⟨nameLine, hnameLine, hname⟩
    · exact Document.valuesOf_eq_singleton_iff.mpr ⟨functionLine, hfunctionLine, hfunctionName⟩
    · exact List.forall₂_map_left_iff.mpr hdeclares
    · rw [horders, List.range_eq_range', List.length_nil]
    · exact ⟨outputLine.value,
        Document.valuesOf_eq_singleton_iff.mpr ⟨outputLine, houtputLine, rfl⟩,
        (readOutput_outputNameFor_eq_ok houtputTrim).mp ⟨declared, houtput, houtputName⟩⟩
  · rintro ⟨h, hsome⟩
    obtain ⟨nameLine, hnameLine, hname⟩ := Document.valuesOf_eq_singleton_iff.mp h.name_eq
    obtain ⟨functionLine, hfunctionLine, hfunctionName⟩ :=
      Document.valuesOf_eq_singleton_iff.mp h.functionName_eq
    obtain ⟨_, hvalue, houtput⟩ := h.output
    obtain ⟨outputLine, houtputLine, rfl⟩ := Document.valuesOf_eq_singleton_iff.mp hvalue
    have houtputTrim : Text.trim outputLine.value.toList = outputLine.value.toList :=
      htrim' .outputField outputLine (houtputLine ▸ List.mem_singleton_self _)
    obtain ⟨declared, houtput, houtputName⟩ :=
      (readOutput_outputNameFor_eq_ok houtputTrim).mpr houtput
    have hparameters : readParametersAfter [] (lines.filter (·.label == .inputField)) =
        .ok problem.parameters := by
      refine (readParametersAfter_eq_ok (htrim' .inputField) hnone).mpr
        ⟨problem.parameters, rfl, List.forall₂_map_left_iff.mp h.parameters, ?_, h.names_nodup⟩
      rw [h.orders_eq, List.range_eq_range', List.length_nil]
    exact ⟨nameLine, functionLine, outputLine, declared, onlyLine_eq_ok.mpr hnameLine,
      readName_eq_ok.mpr ⟨hname, h.name_not_blank⟩, onlyLine_eq_ok.mpr hfunctionLine,
      readFunctionName_eq_ok.mpr ⟨hfunctionName, h.isIdentifier_functionName⟩, hparameters, hsome,
      onlyLine_eq_ok.mpr houtputLine, houtput, houtputName⟩

/-- **The reader answers with what is declared.** -/
theorem parse_eq_ok_iff {text : String} {problem : Problem} :
    parse text = .ok problem ↔
      problem.DeclaredBy (Document.valuesOf (Document.labelledLines text)) := by
  rw [parse, ofLines_eq_ok_iff fun _ => Document.trim_value]
  exact and_iff_left fun h => Mode.noConfusion h.1

/-! ## What holds of every problem that is read -/

section Output

variable {taken : List String} {value name : String} {type : ValueType}

theorem DeclaresOutput.isIdentifier (h : DeclaresOutput taken value name type) :
    Text.isIdentifier name.toList = true := by
  cases h with
  | unnamed _ => exact isIdentifier_defaultOutputName taken
  | named h _ _ => exact h.isIdentifier

theorem DeclaresOutput.not_mem (h : DeclaresOutput taken value name type) : name ∉ taken := by
  cases h with
  | unnamed _ => exact defaultOutputName_not_mem taken
  | named _ _ hfree => exact hfree

theorem Declares.proper (h : Declares value name type) : type.Proper := by
  obtain ⟨rest, -, htype⟩ := h.exists_rest
  exact TypeExpr.proper_of_parse htype

theorem DeclaresOutput.proper (h : DeclaresOutput taken value name type) : type.Proper := by
  cases h with
  | unnamed htype => exact TypeExpr.proper_of_parse htype
  | named h _ _ => exact h.proper

end Output

/-- Each parameter of a declared problem comes from a value. -/
theorem DeclaredBy.exists_declares {problem : Problem} {values : Label → List String}
    (h : problem.DeclaredBy values) :
    ∀ parameter ∈ problem.parameters, ∃ value, Declares value parameter.name parameter.type := by
  intro parameter hparameter
  obtain ⟨i, hi, rfl⟩ := List.getElem_of_mem hparameter
  exact ⟨_, h.parameters.get (h.parameters.length_eq ▸ hi) hi⟩

/-- All types of a declared problem can be written. -/
theorem DeclaredBy.proper_types {problem : Problem} {values : Label → List String}
    (h : problem.DeclaredBy values) : ∀ type ∈ problem.types, type.Proper := by
  intro type htype
  rcases List.mem_append.mp htype with hparameter | hreturn
  · obtain ⟨parameter, hmem, rfl⟩ := List.mem_map.mp hparameter
    obtain ⟨value, hdeclares⟩ := h.exists_declares parameter hmem
    exact hdeclares.proper
  · rw [List.mem_singleton.mp hreturn]
    obtain ⟨value, -, houtput⟩ := h.output
    exact houtput.proper

/-- **What is known of a problem that is read.** Each part of it is what its lines declare: the
names of problem and function stand on one line each, and so does what is returned; every parameter
line gives one parameter, numbered in order, all with different names. The name of the returned
value is an identifier that no parameter has, and all types can be written. -/
theorem declaredBy_of_parse {text : String} {problem : Problem} (h : parse text = .ok problem) :
    problem.DeclaredBy (Document.valuesOf (Document.labelledLines text)) ∧
      Text.isIdentifier problem.outputName.toList = true ∧
      problem.outputName ∉ problem.parameters.map (·.name) ∧
      ∀ type ∈ problem.types, type.Proper := by
  have hdeclared := parse_eq_ok_iff.mp h
  obtain ⟨value, -, houtput⟩ := hdeclared.output
  exact ⟨hdeclared, houtput.isIdentifier, houtput.not_mem, hdeclared.proper_types⟩

/-- A document with its lines in disorder, quotes in the problem name, a keyword for a parameter
name and a parameter called `result`. -/
def disorderedDocument : String :=
  "\n".intercalate ["## - **Output Field:** pair of Node and list<int>",
    "- Input Field: int tuple of a, b and c", "Some prose.", "Function Name: f_1",
    "Input Field:   result\tint[]\r", "Problem Name: \"\"x\"\""]

/-- The problem of that document. -/
def disorderedProblem : Problem where
  name := "\"x\""
  functionName := "f_1"
  parameters := [⟨"int", .tuple [.custom "a", .custom "b", .custom "c"], 0⟩,
    ⟨"result", .array .integer, 1⟩]
  returnType := .pair (.custom "Node") (.array .integer)
  outputName := "result_"

theorem parse_disorderedDocument : parse disorderedDocument = .ok disorderedProblem := by
  apply eq_ok_of_toOption
  rw [parse, Document.labelledLines, disorderedDocument, String.toList_intercalate]
  decide +kernel

theorem declaredBy_of_parse_disordered :
    parse disorderedDocument = .ok disorderedProblem ∧
      disorderedProblem.DeclaredBy
        (Document.valuesOf (Document.labelledLines disorderedDocument)) ∧
      Text.isIdentifier "result_".toList = true ∧
      "result_" ∉ disorderedProblem.parameters.map (·.name) ∧
      ∀ type ∈ disorderedProblem.types, type.Proper :=
  ⟨parse_disorderedDocument, declaredBy_of_parse parse_disorderedDocument⟩

end Problem

end StarterCode
