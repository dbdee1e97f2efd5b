import StarterCode.Proofs.Emission.Blame

/-!
# Going through a type

Three functions go through a type, each in its own way: the walk meets everything, the search stops
at the first custom name, and the spelling puts together what comes out of the parts. Includes,
implementations for tuples and messages come from one of them each, so they have to go through the
same types in the same order.

What the walk has to meet is said without it. A place in a type is the way inwards, a list with the
number of the part to go to on each level, and `nested?` is the type that stands there. The same
type may stand at many places, so it is the places of which the walk must not leave out one or come
to one twice. Places are in order like words in a dictionary: a place comes before all those inside
of it, and everything inside of one part before everything inside of a later one. The walk is the
list of what stands at the places in this order.

An array is gone through like a tuple of one component, and `parts` is what the two have in common.
So what holds of a type is shown by that of its parts (`parts_induction`), and there is one kind of
step, that through a list of parts, with the number at which the list begins.
-/

set_option autoImplicit false

namespace StarterCode

namespace ValueType

/-! ## Parts -/

/-- The element of an array, or the components of a tuple in order. -/
def parts : ValueType → List ValueType
  | .array element => [element]
  | .tuple components => components
  | _ => []

/-- A property of a type may be shown by that of its parts. -/
@[elab_as_elim]
theorem parts_induction {motive : ValueType → Prop}
    (step : ∀ type, (∀ part ∈ type.parts, motive part) → motive type) (type : ValueType) :
    motive type := by
  induction type using nested_induction with
  | scalar type hscalar =>
    apply step
    intro part hpart
    cases type with
    | array | tuple => cases hscalar
    | _ => cases hpart
  | array element ih =>
    apply step
    intro part hpart
    rw [List.mem_singleton.mp hpart]
    exact ih
  | tuple components ih => exact step _ ih
  | custom name =>
    apply step
    intro part hpart
    cases hpart

theorem walk_eq_cons (type : ValueType) : type.walk = type :: walkAll type.parts := by
  cases type <;> simp [walk, walkAll, parts]

/-! ## Places -/

/-- A place in a type: the type itself, or the number of a part and then a place in that part. -/
abbrev Place := List Nat

/-- The type that stands at a place. -/
def nested? (type : ValueType) : Place → Option ValueType
  | [] => some type
  | i :: place => type.parts[i]?.bind (nested? · place)

/-- What stands at a place in the part with the number `i`, with its place in the whole. -/
def inPart (i : Nat) (entry : Place × ValueType) : Place × ValueType :=
  (i :: entry.1, entry.2)

mutual

/-- The walk, with the place of each type that it meets. -/
def located : ValueType → List (Place × ValueType)
  | .array element => ([], .array element) :: element.located.map (inPart 0)
  | .tuple components => ([], .tuple components) :: locatedFrom 0 components
  | type => [([], type)]

/-- The walks of several parts, of which the first one has the number `i`. -/
def locatedFrom (i : Nat) : List ValueType → List (Place × ValueType)
  | [] => []
  | part :: parts => part.located.map (inPart i) ++ locatedFrom (i + 1) parts

end

theorem located_eq_cons (type : ValueType) :
    type.located = ([], type) :: locatedFrom 0 type.parts := by
  cases type <;> simp [located, locatedFrom, parts]

/-! ## What the walk meets -/

section Parts

variable {types : List ValueType}

theorem map_snd_locatedFrom (htypes : ∀ type ∈ types, type.located.map Prod.snd = type.walk)
    (i : Nat) : (locatedFrom i types).map Prod.snd = walkAll types := by
  induction types generalizing i with
  | nil => rfl
  | cons type types ih =>
    obtain ⟨htype, hothers⟩ := List.forall_mem_cons.mp htypes
    have hfirst : (type.located.map (inPart i)).map Prod.snd = type.walk := by
      rw [List.map_map, ← htype]
      rfl
    rw [locatedFrom, walkAll, List.map_append, hfirst, ih hothers]

theorem mem_locatedFrom
    (htypes : ∀ type ∈ types, ∀ place inner,
      (place, inner) ∈ type.located ↔ type.nested? place = some inner)
    {i : Nat} {place : Place} {inner : ValueType} :
    (place, inner) ∈ locatedFrom i types ↔
      ∃ j within, place = (i + j) :: within ∧ types[j]?.bind (nested? · within) = some inner := by
  induction types generalizing i with
  | nil => simp [locatedFrom]
  | cons type types ih =>
    obtain ⟨htype, hothers⟩ := List.forall_mem_cons.mp htypes
    have hfirst : (place, inner) ∈ type.located.map (inPart i) ↔
        ∃ within, place = i :: within ∧ type.nested? within = some inner := by
      simp only [List.mem_map, inPart, Prod.exists, Prod.mk.injEq, htype]
      constructor
      · rintro ⟨within, inner, hinner, rfl, rfl⟩
        exact ⟨within, rfl, hinner⟩
      · rintro ⟨within, rfl, hinner⟩
        exact ⟨within, inner, hinner, rfl, rfl⟩
    rw [locatedFrom, List.mem_append, hfirst, ih hothers]
    -- the others are counted from the part behind the first one
    constructor
    · rintro (⟨within, rfl, hinner⟩ | ⟨j, within, rfl, hinner⟩)
      · exact ⟨0, within, rfl, hinner⟩
      · exact ⟨j + 1, within, by rw [Nat.add_right_comm, Nat.add_assoc], hinner⟩
    · rintro ⟨_ | j, within, rfl, hinner⟩
      · exact .inl ⟨within, rfl, hinner⟩
      · exact .inr ⟨j, within, by rw [Nat.add_right_comm, Nat.add_assoc], hinner⟩

/-- Everything in a list of parts stands in the first of them or in one behind it. -/
theorem exists_of_mem_locatedFrom {i : Nat} {place : Place}
    (h : place ∈ (locatedFrom i types).map Prod.fst) :
    ∃ j within, i ≤ j ∧ place = j :: within := by
  induction types generalizing i with
  | nil => cases h
  | cons type types ih =>
    rw [locatedFrom, List.map_append, List.mem_append] at h
    rcases h with hfirst | hothers
    · rw [List.map_map] at hfirst
      obtain ⟨entry, -, rfl⟩ := List.mem_map.mp hfirst
      exact ⟨i, entry.1, Nat.le_refl i, rfl⟩
    · obtain ⟨j, within, hle, rfl⟩ := ih hothers
      exact ⟨j, within, Nat.le_of_succ_le hle, rfl⟩

theorem pairwise_locatedFrom
    (htypes : ∀ type ∈ types, (type.located.map Prod.fst).Pairwise (List.Lex (· < ·))) (i : Nat) :
    ((locatedFrom i types).map Prod.fst).Pairwise (List.Lex (· < ·)) := by
  induction types generalizing i with
  | nil => exact .nil
  | cons type types ih =>
    obtain ⟨htype, hothers⟩ := List.forall_mem_cons.mp htypes
    have hfirst : (type.located.map (inPart i)).map Prod.fst =
        (type.located.map Prod.fst).map (i :: ·) := by
      rw [List.map_map, List.map_map]
      rfl
    rw [locatedFrom, List.map_append, hfirst, List.pairwise_append]
    refine ⟨?_, ih hothers (i + 1), ?_⟩
    · exact htype.map _ fun _ _ hlex => .cons hlex
    · -- one place is in the part with the number `i`, the other one in a later part
      intro place hplace later hlater
      obtain ⟨within, -, rfl⟩ := List.mem_map.mp hplace
      obtain ⟨j, within', hle, rfl⟩ := exists_of_mem_locatedFrom hlater
      exact .rel hle

end Parts

theorem map_snd_located (type : ValueType) : type.located.map Prod.snd = type.walk := by
  induction type using parts_induction with
  | step type ih => rw [located_eq_cons, walk_eq_cons, List.map_cons, map_snd_locatedFrom ih]

/-- The walk comes to all places in a type and to no others, and meets there what stands there. -/
theorem mem_located {type inner : ValueType} {place : Place} :
    (place, inner) ∈ type.located ↔ type.nested? place = some inner := by
  induction type using parts_induction generalizing place inner with
  | step type ih =>
    rw [located_eq_cons, List.mem_cons, mem_locatedFrom fun part hpart _ _ => ih part hpart]
    cases place with
    | nil => simp [nested?, eq_comm]
    | cons i place => simp [nested?]

/-- The walk comes to the places in ascending order, so to each of them once. -/
theorem pairwise_located (type : ValueType) :
    (type.located.map Prod.fst).Pairwise (List.Lex (· < ·)) := by
  induction type using parts_induction with
  | step type ih =>
    rw [located_eq_cons, List.map_cons, List.pairwise_cons]
    refine ⟨?_, pairwise_locatedFrom ih 0⟩
    -- a type stands before its parts, whose places are longer
    intro place hplace
    obtain ⟨i, within, -, rfl⟩ := exists_of_mem_locatedFrom hplace
    exact .nil

/-- One type at two places. -/
example : (tuple [.array .integer, .integer]).located =
    [([], .tuple [.array .integer, .integer]), ([0], .array .integer), ([0, 0], .integer),
      ([1], .integer)] := rfl

/-! ## Visitors -/

section Visitors

variable {σ : Type} (visitor : ValueType → StateM σ Unit)

mutual

/-- Hands the type to a visitor, and then every type nested in it. What the visitor keeps from one
visit to the next is its state. -/
def visit : ValueType → StateM σ Unit
  | .array element => do
    visitor (.array element)
    element.visit
  | .tuple components => do
    visitor (.tuple components)
    visitAll components
  | type => visitor type

/-- Hands several types to a visitor, each with all types nested in it. -/
def visitAll : List ValueType → StateM σ Unit
  | [] => pure ()
  | type :: types => do
    type.visit
    visitAll types

end

theorem visit_eq_bind (type : ValueType) :
    type.visit visitor = (do visitor type; visitAll visitor type.parts) := by
  cases type <;> simp [visit, visitAll, parts]

theorem visitAll_eq_forM {types : List ValueType}
    (htypes : ∀ type ∈ types, type.visit visitor = type.walk.forM visitor) :
    visitAll visitor types = (walkAll types).forM visitor := by
  induction types with
  | nil => rfl
  | cons type types ih =>
    obtain ⟨htype, hothers⟩ := List.forall_mem_cons.mp htypes
    rw [visitAll, walkAll, htype, ih hothers]
    exact List.forM_append.symm

/-- A visitor gets to see what the walk meets, one type after the other. -/
theorem visit_eq_forM (type : ValueType) : type.visit visitor = type.walk.forM visitor := by
  induction type using parts_induction with
  | step type ih =>
    rw [visit_eq_bind, walk_eq_cons, visitAll_eq_forM visitor ih]
    rfl

end Visitors

end ValueType

/-! ## Agreement -/

/-- **The ways through a type agree.** The search finds the name of the first custom type that the
walk meets. The walk comes to every place in the type and to no other, to each of them once, to a
place before those inside of it and to the parts in order, and meets at each place the type that
stands there; a visitor with a state sees the same types in the same order. And the type has a
spelling exactly when each custom name that the walk meets stands in the table. -/
theorem traversals_agree (type : ValueType) (spelling : Spelling) :
    type.findCustom? = type.walk.findSome? ValueType.customName? ∧
    (∃ located : List (ValueType.Place × ValueType),
      located.map Prod.snd = type.walk ∧
      (located.map Prod.fst).Pairwise (List.Lex (· < ·)) ∧
      ∀ place inner, (place, inner) ∈ located ↔ type.nested? place = some inner) ∧
    (∀ (σ : Type) (visitor : ValueType → StateM σ Unit),
      type.visit visitor = type.walk.forM visitor) ∧
    ((∃ spelled, spelling.spell? type = some spelled) ↔
      ∀ name, .custom name ∈ type.walk → ∃ spelled, (name, spelled) ∈ spelling.custom) := by
  refine ⟨?_, ⟨type.located, type.map_snd_located, type.pairwise_located, ?_⟩, ?_, ?_⟩
  · rw [ValueType.findCustom?_eq_head?, ValueType.customNames, List.head?_filterMap]
  · exact fun _ _ => ValueType.mem_located
  · exact fun _ visitor => type.visit_eq_forM visitor
  · rw [← Option.isSome_iff_exists, Spelling.isSome_spell?, Spelling.knows_iff]

end StarterCode
