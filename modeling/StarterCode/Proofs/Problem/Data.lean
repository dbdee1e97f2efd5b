import StarterCode.Problem.Data

/-!
# Problems read back from JSON

Every value is read back from its JSON form: types at any depth and with tuples of any length,
parameters, problems, inputs, and problems with layouts. All that is asked for is that the positions
of the parameters are numbers of 64 bits, which is what a position can be.

Members with unknown names do not matter. `knownPart` leaves them out of the form of a type or of a
record and out of all forms in it, and no form at all, be it that of a value or not, is read
differently for it. So a value is read back from every form that is its own but for such members.

A type is read in one pass over the members of its form. `ofJson?_object` says what comes of that in
terms of two members, that of the kind and that of the content, and is all that is used of it.
-/

set_option autoImplicit false

namespace StarterCode

universe u v w

/-! ## Lists of forms -/

/-- Reading changed items comes to the same as reading the items where it does for each of them. -/
theorem mapM_map_of_forall {α : Type u} {β : Type v} {γ : Type w} {change : α → β}
    {read : β → Option γ} {read' : α → Option γ} : ∀ {items : List α},
    (∀ item ∈ items, read (change item) = read' item) →
      (items.map change).mapM read = items.mapM read'
  | [], _ => rfl
  | item :: items, h => by
    rw [List.map_cons, List.mapM_cons, List.mapM_cons, h item List.mem_cons_self,
      mapM_map_of_forall fun item hitem => h item (List.mem_cons_of_mem _ hitem)]

/-- A list is read back where each of its items is. -/
theorem mapM_map_eq_some {α : Type u} {β : Type v} {write : α → β} {read : β → Option α}
    {items : List α} (h : ∀ item ∈ items, read (write item) = some item) :
    (items.map write).mapM read = some items := by
  rw [mapM_map_of_forall h]
  simpa using List.mapM_pure (m := Option) (l := items) (f := id)

/-! ## Members of objects -/

namespace Json

/-- A property of a value may be shown by that of its items or of its members. -/
@[elab_as_elim]
theorem nested_induction {motive : Json → Prop} (null : motive .null)
    (bool : ∀ value, motive (.bool value)) (nat : ∀ value, motive (.nat value))
    (number : ∀ text, motive (.number text)) (string : ∀ text, motive (.string text))
    (array : ∀ items, (∀ item ∈ items, motive item) → motive (.array items))
    (object : ∀ members, (∀ member ∈ members, motive member.2) → motive (.object members))
    (value : Json) : motive value :=
  Json.rec (motive_1 := motive) (motive_2 := fun items => ∀ item ∈ items, motive item)
    (motive_3 := fun members => ∀ member ∈ members, motive member.2)
    (motive_4 := fun member => motive member.2)
    null bool nat number string array object
    (fun _ h => absurd h List.not_mem_nil)
    (fun _ _ hfirst hothers _ h => (List.mem_cons.mp h).elim (fun heq => heq ▸ hfirst) (hothers _))
    (fun _ h => absurd h List.not_mem_nil)
    (fun _ _ hfirst hothers _ h => (List.mem_cons.mp h).elim (fun heq => heq ▸ hfirst) (hothers _))
    (fun _ _ h => h)
    value

/-- The members that belong to the given fields, each value changed as its field says. -/
def keepMembers (fields : List (String × (Json → Json))) (members : List (String × Json)) :
    List (String × Json) :=
  members.filterMap fun member =>
    (fields.lookup member.1).map fun change => (member.1, change member.2)

/-- An object with only those members that belong to the given fields, each value changed as its
field says. What is no object stays as it is. -/
def keep (fields : List (String × (Json → Json))) : Json → Json
  | .object members => .object (keepMembers fields members)
  | value => value

/-- A list with each of its items changed. What is no list stays as it is. -/
def each (change : Json → Json) : Json → Json
  | .array items => .array (items.map change)
  | value => value

theorem lookup_keepMembers (fields : List (String × (Json → Json))) (name : String) :
    ∀ members : List (String × Json), (keepMembers fields members).lookup name =
      (fields.lookup name).bind fun change => (members.lookup name).map change
  | [] => by cases fields.lookup name <;> rfl
  | (other, value) :: members => by
    have ih := lookup_keepMembers fields name members
    rw [keepMembers] at ih ⊢
    by_cases hname : name = other
    · subst hname
      cases hfield : fields.lookup name with
      | none =>
        rw [List.filterMap_cons_none (by simp [hfield]), ih, hfield]
        rfl
      | some change =>
        rw [List.filterMap_cons_some (b := (name, change value)) (by simp [hfield])]
        simp
    · have hne : (name == other) = false := beq_false_of_ne hname
      rw [List.lookup_cons, hne, ← ih]
      cases hfield : fields.lookup other with
      | none => rw [List.filterMap_cons_none (by simp [hfield])]
      | some change =>
        rw [List.filterMap_cons_some (b := (other, change value)) (by simp [hfield]),
          List.lookup_cons, hne]

@[simp] theorem array?_each (change : Json → Json) (value : Json) :
    (value.each change).array? = value.array?.map (List.map change) := by
  cases value <;> rfl

end Json

/-! ## Types -/

namespace ValueType

/-- The type of a kind with the given content. -/
def ofContent? (kind : Kind) (content : Json) : Option ValueType :=
  match kind with
  | .scalar type =>
    match content with
    | .null => some type
    | _ => none
  | .array => (ofJson? content).map .array
  | .tuple => (content.array?.bind ofJsonAll?).map .tuple
  | .custom => content.string?.map .custom

theorem ofMembers?_eq (kind : Kind) : ∀ members : List (String × Json),
    ofMembers? kind members = ((members.lookup "of").map (ofContent? kind)).getD kind.alone?
  | [] => by
    rw [ofMembers?]
    rfl
  | (name, content) :: members => by
    have ih := ofMembers?_eq kind members
    rw [List.lookup_cons]
    by_cases hname : name = "of"
    · subst hname
      cases content <;> cases kind <;> simp [ofMembers?, ofContent?, Json.array?]
    · rw [beq_false_of_ne (Ne.symm hname), ← ih]
      cases content <;> simp [ofMembers?, hname]

/-- The type of an object is that of its kind and its content, wherever they stand in it. -/
theorem ofJson?_object (members : List (String × Json)) :
    ofJson? (.object members) = ((members.lookup "kind").bind Kind.ofJson?).bind fun kind =>
      ((members.lookup "of").map (ofContent? kind)).getD kind.alone? := by
  rw [ofJson?]
  cases (members.lookup "kind").bind Kind.ofJson? with
  | none => rfl
  | some kind => exact ofMembers?_eq kind members

theorem ofJson?_pair (kindForm content : Json) : ofJson? (.array [kindForm, content]) =
    (kindForm.string?.bind Kind.ofName?).bind fun kind => ofContent? kind content := by
  cases hkind : kindForm.string?.bind Kind.ofName? with
  | none => cases content <;> simp [ofJson?, hkind]
  | some kind => cases content <;> cases kind <;> simp [ofJson?, hkind, ofContent?, Json.array?]

theorem ofJsonAll?_eq_mapM (items : List Json) : ofJsonAll? items = items.mapM ofJson? := by
  induction items with
  | nil => rfl
  | cons item items ih => rw [ofJsonAll?, ih, List.mapM_cons]

theorem toJsonAll_eq_map (types : List ValueType) : toJsonAll types = types.map toJson := by
  induction types with
  | nil => rfl
  | cons type types ih => rw [toJsonAll, ih, List.map_cons]

@[simp] theorem ofJson?_toJson (type : ValueType) : ofJson? type.toJson = some type := by
  induction type using nested_induction with
  | scalar type hscalar =>
    cases type with
    | array | tuple | custom => cases hscalar
    | _ => rfl
  | array element ih =>
    rw [toJson, ofJson?_object]
    simp [List.lookup_cons, Kind.ofJson?, Json.caseName?, Kind.ofName?, ofContent?, ih]
  | tuple components ih =>
    have hcomponents : ofJsonAll? (toJsonAll components) = some components := by
      rw [toJsonAll_eq_map, ofJsonAll?_eq_mapM]
      exact mapM_map_eq_some ih
    rw [toJson, ofJson?_object]
    simp [List.lookup_cons, Kind.ofJson?, Json.caseName?, Kind.ofName?, ofContent?, Json.array?,
      hcomponents]
  | custom name => rfl

/-! ### Unknown members -/

mutual

/-- The form of a type without members of unknown names, at any depth. -/
def knownPart : Json → Json
  | .object members => .object (knownMembers members)
  | .array items => .array (knownParts items)
  | value => value

/-- The members that are the kind of a type or its content. -/
def knownMembers : List (String × Json) → List (String × Json)
  | [] => []
  | (name, value) :: members =>
    if name = "kind" then (name, value) :: knownMembers members
    else if name = "of" then (name, knownPart value) :: knownMembers members
    else knownMembers members

/-- The forms of several types without members of unknown names. -/
def knownParts : List Json → List Json
  | [] => []
  | item :: items => knownPart item :: knownParts items

end

theorem knownMembers_eq_keepMembers (members : List (String × Json)) :
    knownMembers members = Json.keepMembers [("kind", id), ("of", knownPart)] members := by
  induction members with
  | nil => rfl
  | cons member members ih =>
    obtain ⟨name, value⟩ := member
    rw [knownMembers, ih, Json.keepMembers, Json.keepMembers, List.filterMap_cons]
    by_cases hkind : name = "kind"
    · simp [hkind, List.lookup_cons]
    · by_cases hof : name = "of"
      · simp [hof, List.lookup_cons]
      · simp [hkind, hof, List.lookup_cons, beq_false_of_ne]

theorem knownParts_eq_map (items : List Json) : knownParts items = items.map knownPart := by
  induction items with
  | nil => rfl
  | cons item items ih => rw [knownParts, ih, List.map_cons]

/-- Unknown members matter neither where a form stands for a type nor where it is the content of
one. The second is what the induction needs: the content of a tuple is no form of a type. -/
theorem reads_knownPart (form : Json) : ofJson? (knownPart form) = ofJson? form ∧
    ∀ kind, ofContent? kind (knownPart form) = ofContent? kind form := by
  induction form using Json.nested_induction with
  | object members ih =>
    have hform : ofJson? (knownPart (.object members)) = ofJson? (.object members) := by
      rw [knownPart, knownMembers_eq_keepMembers, ofJson?_object, ofJson?_object]
      simp only [Json.lookup_keepMembers]
      -- The kind is kept as it is; the content is a member, so the induction speaks of it.
      cases hcontent : members.lookup "of" with
      | none => simp [List.lookup_cons]
      | some content =>
        obtain ⟨before, after, rfl, -⟩ := List.lookup_eq_some_iff.mp hcontent
        have hsame := (ih ("of", content) (by simp)).2
        simp [List.lookup_cons, hsame]
    refine ⟨hform, fun kind => ?_⟩
    cases kind with
    | array => rw [ofContent?, ofContent?, hform]
    | _ => rfl
  | array items ih =>
    have hitems : ofJsonAll? (knownParts items) = ofJsonAll? items := by
      rw [knownParts_eq_map, ofJsonAll?_eq_mapM, ofJsonAll?_eq_mapM]
      exact mapM_map_of_forall fun item hitem => (ih item hitem).1
    have hform : ofJson? (knownPart (.array items)) = ofJson? (.array items) := by
      match items, ih with
      | [kindForm, content], ih =>
        have hkind : (knownPart kindForm).string? = kindForm.string? := by
          cases kindForm <;> simp [knownPart, Json.string?]
        have hcontent := (ih content (by simp)).2
        simp only [knownPart, knownParts, ofJson?_pair, hkind, hcontent]
      | [], _ | [_], _ | _ :: _ :: _ :: _, _ => rfl
    refine ⟨hform, fun kind => ?_⟩
    cases kind with
    | array => rw [ofContent?, ofContent?, hform]
    | tuple => simp only [knownPart, ofContent?, Json.array?, Option.bind_some, hitems]
    | _ => rfl
  | _ => exact ⟨rfl, fun kind => by cases kind <;> rfl⟩

@[simp] theorem ofJson?_knownPart (form : Json) : ofJson? (knownPart form) = ofJson? form :=
  (reads_knownPart form).1

@[simp] theorem knownPart_toJson (type : ValueType) : knownPart type.toJson = type.toJson := by
  induction type using nested_induction with
  | scalar type hscalar =>
    cases type with
    | array | tuple | custom => cases hscalar
    | _ => rfl
  | array element ih => simp [toJson, knownPart, knownMembers, ih]
  | tuple components ih =>
    have hcomponents : (components.map toJson).map knownPart = components.map toJson := by
      rw [List.map_map]
      exact List.map_congr_left ih
    simp [toJson, knownPart, knownMembers, toJsonAll_eq_map, knownParts_eq_map, hcomponents]
  | custom name => rfl

end ValueType

/-! ## Records -/

namespace Parameter

/-- The position is a number of 64 bits. -/
def InRange (parameter : Parameter) : Prop :=
  parameter.order < UInt64.size

theorem ofJson?_toJson {parameter : Parameter} (h : parameter.InRange) :
    ofJson? parameter.toJson = some parameter := by
  rw [InRange] at h
  simp [toJson, ofJson?, Json.fields?, List.lookup_cons, Json.string?, Json.word64?, h]

/-- The form of a parameter without members of unknown names, at any depth. -/
def knownPart : Json → Json :=
  Json.keep [("name", id), ("ty", ValueType.knownPart), ("order", id)]

@[simp] theorem ofJson?_knownPart (form : Json) : ofJson? (knownPart form) = ofJson? form := by
  cases form with
  | object members =>
    simp [knownPart, Json.keep, ofJson?, Json.fields?, Json.lookup_keepMembers, List.lookup_cons,
      Option.bind_map, Option.bind_assoc]
  | _ => rfl

@[simp] theorem knownPart_toJson (parameter : Parameter) :
    knownPart parameter.toJson = parameter.toJson := by
  simp [toJson, knownPart, Json.keep, Json.keepMembers, List.lookup_cons]

end Parameter

namespace Problem

/-- The positions of the parameters are numbers of 64 bits. -/
def InRange (problem : Problem) : Prop :=
  ∀ parameter ∈ problem.parameters, parameter.InRange

theorem ofJson?_toJson {problem : Problem} (h : problem.InRange) :
    ofJson? problem.toJson = some problem := by
  have hparameters := mapM_map_eq_some fun parameter hparameter =>
    Parameter.ofJson?_toJson (h parameter hparameter)
  simp [toJson, ofJson?, Json.fields?, List.lookup_cons, Json.string?, Json.array?, hparameters]

/-- The form of a problem without members of unknown names, at any depth. -/
def knownPart : Json → Json :=
  Json.keep [("problem_name", id), ("function_name", id),
    ("parameters", Json.each Parameter.knownPart), ("return_type", ValueType.knownPart),
    ("output_name", id)]

@[simp] theorem ofJson?_knownPart (form : Json) : ofJson? (knownPart form) = ofJson? form := by
  cases form with
  | object members =>
    simp [knownPart, Json.keep, ofJson?, Json.fields?, Json.lookup_keepMembers, List.lookup_cons,
      Option.bind_map, Option.bind_assoc, Function.comp_def]
  | _ => rfl

@[simp] theorem knownPart_toJson (problem : Problem) :
    knownPart problem.toJson = problem.toJson := by
  simp [toJson, knownPart, Json.keep, Json.keepMembers, Json.each, List.lookup_cons]

end Problem

namespace Input

theorem ofJson?_toJson {input : Input} (h : input.parameter.InRange) :
    ofJson? input.toJson = some input := by
  have hlayout : InputLayout.ofJson? input.layout.toJson = some input.layout := by
    cases input.layout <;> rfl
  simp [toJson, ofJson?, Json.fields?, List.lookup_cons, Parameter.ofJson?_toJson h, hlayout]

/-- The form of an input without members of unknown names, at any depth. -/
def knownPart : Json → Json :=
  Json.keep [("parameter", Parameter.knownPart), ("layout", id)]

@[simp] theorem ofJson?_knownPart (form : Json) : ofJson? (knownPart form) = ofJson? form := by
  cases form with
  | object members =>
    simp [knownPart, Json.keep, ofJson?, Json.fields?, Json.lookup_keepMembers, List.lookup_cons,
      Option.bind_map, Option.bind_assoc]
  | _ => rfl

@[simp] theorem knownPart_toJson (input : Input) : knownPart input.toJson = input.toJson := by
  simp [toJson, knownPart, Json.keep, Json.keepMembers, List.lookup_cons]

end Input

namespace LaidOutProblem

/-- The positions of the parameters, wherever they are kept, are numbers of 64 bits. -/
def InRange (laidOut : LaidOutProblem) : Prop :=
  laidOut.problem.InRange ∧ ∀ input ∈ laidOut.inputs, input.parameter.InRange

theorem ofJson?_toJson {laidOut : LaidOutProblem} (h : laidOut.InRange) :
    ofJson? laidOut.toJson = some laidOut := by
  have hinputs := mapM_map_eq_some fun input hinput => Input.ofJson?_toJson (h.2 input hinput)
  have hlayout : OutputLayout.ofJson? laidOut.outputLayout.toJson = some laidOut.outputLayout := by
    cases laidOut.outputLayout <;> rfl
  simp [toJson, ofJson?, Json.fields?, List.lookup_cons, Json.array?,
    Problem.ofJson?_toJson h.1, hinputs, hlayout]

/-- The form of a problem with layouts without members of unknown names, at any depth. -/
def knownPart : Json → Json :=
  Json.keep [("definition", Problem.knownPart), ("inputs", Json.each Input.knownPart),
    ("output_layout", id)]

@[simp] theorem ofJson?_knownPart (form : Json) : ofJson? (knownPart form) = ofJson? form := by
  cases form with
  | object members =>
    simp [knownPart, Json.keep, ofJson?, Json.fields?, Json.lookup_keepMembers, List.lookup_cons,
      Option.bind_map, Option.bind_assoc, Function.comp_def]
  | _ => rfl

@[simp] theorem knownPart_toJson (laidOut : LaidOutProblem) :
    knownPart laidOut.toJson = laidOut.toJson := by
  simp [toJson, knownPart, Json.keep, Json.keepMembers, Json.each, List.lookup_cons]

end LaidOutProblem

/-! ## Round trips -/

/-- The value is read back from its JSON form, which has no members of unknown names, and from every
form that such members make of it. -/
structure ReadBack {α : Type} (toJson : α → Json) (ofJson? : Json → Option α)
    (knownPart : Json → Json) (a : α) : Prop where
  plain : ofJson? (toJson a) = some a
  known : knownPart (toJson a) = toJson a
  widened : ∀ form, knownPart form = toJson a → ofJson? form = some a

/-- Where unknown members never matter, a value that is read back from its form is so from all of
the forms that such members make of it. -/
theorem ReadBack.of_plain {α : Type} {toJson : α → Json} {ofJson? : Json → Option α}
    {knownPart : Json → Json} {a : α} (hplain : ofJson? (toJson a) = some a)
    (hknown : knownPart (toJson a) = toJson a)
    (hsame : ∀ form, ofJson? (knownPart form) = ofJson? form) :
    ReadBack toJson ofJson? knownPart a where
  plain := hplain
  known := hknown
  widened form hform := by rw [← hsame form, hform, hplain]

/-- Every type is read back from JSON, and so are the parameters, problems, inputs and problems with
layouts whose positions are in range. -/
theorem readBack_of_inRange :
    (∀ type, ReadBack ValueType.toJson ValueType.ofJson? ValueType.knownPart type) ∧
    (∀ parameter : Parameter, parameter.InRange →
      ReadBack Parameter.toJson Parameter.ofJson? Parameter.knownPart parameter) ∧
    (∀ problem : Problem, problem.InRange →
      ReadBack Problem.toJson Problem.ofJson? Problem.knownPart problem) ∧
    (∀ input : Input, input.parameter.InRange →
      ReadBack Input.toJson Input.ofJson? Input.knownPart input) ∧
    (∀ laidOut : LaidOutProblem, laidOut.InRange →
      ReadBack LaidOutProblem.toJson LaidOutProblem.ofJson? LaidOutProblem.knownPart laidOut) := by
  refine ⟨fun type => ?_, fun parameter h => ?_, fun problem h => ?_, fun input h => ?_,
    fun laidOut h => ?_⟩
  · exact .of_plain type.ofJson?_toJson type.knownPart_toJson ValueType.ofJson?_knownPart
  · exact .of_plain (Parameter.ofJson?_toJson h) parameter.knownPart_toJson
      Parameter.ofJson?_knownPart
  · exact .of_plain (Problem.ofJson?_toJson h) problem.knownPart_toJson Problem.ofJson?_knownPart
  · exact .of_plain (Input.ofJson?_toJson h) input.knownPart_toJson Input.ofJson?_knownPart
  · exact .of_plain (LaidOutProblem.ofJson?_toJson h) laidOut.knownPart_toJson
      LaidOutProblem.ofJson?_knownPart

/-! ### A form with unknown members -/

/-- A parameter whose type has a tuple of one component. -/
def boxes : Parameter :=
  ⟨"boxes", .array (.tuple [.custom "node"]), 1⟩

/-- Its form with unknown members in the record and in two of the types, some under names that are
known in other forms. -/
def boxesForm : Json :=
  .object [("name", .string "boxes"),
    ("ty", .object [("kind", .string "array"),
      ("of", .object [("order", .null), ("kind", .string "tuple"),
        ("of", .array [.object [("kind", .string "custom"), ("of", .string "node"),
          ("doc", .string "")]])])]),
    ("of", .array []), ("order", .nat 1)]

/-- A problem with a parameter of an empty tuple beside the boxes. -/
def unpacking : Problem :=
  ⟨"Unpacking", "unpack", [⟨"unit", .tuple [], 0⟩, boxes], .integer, "count"⟩

/-- The problem with layouts. -/
def laidOutUnpacking : LaidOutProblem :=
  ⟨unpacking, [⟨boxes, .line⟩], .lines⟩

/-- Its form with unknown members at every level. -/
def laidOutUnpackingForm : Json :=
  .object [("version", .nat 2),
    ("definition", .object [("problem_name", .string "Unpacking"), ("author", .null),
      ("function_name", .string "unpack"),
      ("parameters", .array [Parameter.toJson ⟨"unit", .tuple [], 0⟩, boxesForm]),
      ("return_type", ValueType.integer.toJson), ("output_name", .string "count")]),
    ("inputs", .array [.object [("parameter", boxesForm), ("layout", .string "line"),
      ("separator", .string ",")]]),
    ("output_layout", .string "lines"), ("author", .null)]

theorem readBack_of_inRange_unpacking :
    (boxes.InRange ∧ Parameter.knownPart boxesForm = boxes.toJson ∧
      Parameter.ofJson? boxesForm = some boxes) ∧
    (unpacking.InRange ∧ Problem.ofJson? unpacking.toJson = some unpacking) ∧
    Input.ofJson? (Input.toJson ⟨boxes, .line⟩) = some ⟨boxes, .line⟩ ∧
    (laidOutUnpacking.InRange ∧
      LaidOutProblem.knownPart laidOutUnpackingForm = laidOutUnpacking.toJson ∧
      LaidOutProblem.ofJson? laidOutUnpackingForm = some laidOutUnpacking) := by
  have hboxes : boxes.InRange := by
    rw [Parameter.InRange]
    decide
  have hunpacking : unpacking.InRange := by
    intro parameter hparameter
    rw [Parameter.InRange]
    revert parameter
    decide
  have hlaidOut : laidOutUnpacking.InRange :=
    ⟨hunpacking, fun input hinput => List.mem_singleton.mp hinput ▸ hboxes⟩
  obtain ⟨-, hparameter, hproblem, hinput, hall⟩ := readBack_of_inRange
  exact ⟨⟨hboxes, rfl, (hparameter boxes hboxes).widened boxesForm rfl⟩,
    ⟨hunpacking, (hproblem unpacking hunpacking).plain⟩, (hinput ⟨boxes, .line⟩ hboxes).plain,
    hlaidOut, rfl, (hall laidOutUnpacking hlaidOut).widened laidOutUnpackingForm rfl⟩

end StarterCode
