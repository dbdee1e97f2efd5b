/-!
# Value types

`ValueType` is the shape of a parameter or of a return value, free of any target language: four
scalars, arrays, tuples, and a named type outside this table.

A tuple carries a list of components, so every traversal comes as a pair: one function on types and
one on lists of types, each recursing on the structure of its argument. Three of them answer the
questions the rest of the library asks.

* `text` writes the type as a type expression.
* `walk` lists the type and all types nested in it, parents first, components from left to right.
* `findCustom?` is the first name in that order that belongs to no built-in type.

Tuples of fewer than two components are values too. No expression denotes one, but they can be
given as data, and every function answers for them.
-/

set_option autoImplicit false

namespace StarterCode

/-- The shape of a value. -/
inductive ValueType where
  /-- A whole number. -/
  | integer
  /-- A number with a fractional part. -/
  | float
  /-- A truth value. -/
  | boolean
  /-- A text. -/
  | string
  /-- Any number of values of one type. -/
  | array (element : ValueType)
  /-- One value of each component; two components make a pair. -/
  | tuple (components : List ValueType)
  /-- A type known by its name alone. -/
  | custom (name : String)
deriving Inhabited

namespace ValueType

/-- The tuple of two components. -/
abbrev pair (first second : ValueType) : ValueType :=
  .tuple [first, second]

/-! ## Equality

The type nests itself in a list, so its equality test is written out and proved to decide `=`. -/

mutual

/-- Structural comparison of two types. -/
def same : ValueType → ValueType → Bool
  | .integer, .integer => true
  | .float, .float => true
  | .boolean, .boolean => true
  | .string, .string => true
  | .array s, .array t => same s t
  | .tuple ss, .tuple ts => sameAll ss ts
  | .custom m, .custom n => m == n
  | _, _ => false

/-- Structural comparison of two lists of types. -/
def sameAll : List ValueType → List ValueType → Bool
  | [], [] => true
  | s :: ss, t :: ts => same s t && sameAll ss ts
  | _, _ => false

end

mutual

theorem same_self : ∀ t : ValueType, same t t = true
  | .integer | .float | .boolean | .string => rfl
  | .array t => by simpa [same] using same_self t
  | .tuple ts => by simpa [same] using sameAll_self ts
  | .custom n => by simp [same]

theorem sameAll_self : ∀ ts : List ValueType, sameAll ts ts = true
  | [] => rfl
  | t :: ts => by simp [sameAll, same_self t, sameAll_self ts]

end

mutual

theorem eq_of_same : ∀ {s t : ValueType}, same s t = true → s = t
  | .integer, t, h => by cases t <;> simp [same] at h ⊢
  | .float, t, h => by cases t <;> simp [same] at h ⊢
  | .boolean, t, h => by cases t <;> simp [same] at h ⊢
  | .string, t, h => by cases t <;> simp [same] at h ⊢
  | .array s, t, h => by
    cases t with
    | array t => simp only [same] at h; rw [eq_of_same h]
    | _ => simp [same] at h
  | .tuple ss, t, h => by
    cases t with
    | tuple ts => simp only [same] at h; rw [eq_of_sameAll h]
    | _ => simp [same] at h
  | .custom m, t, h => by cases t <;> simp [same] at h ⊢; exact h

theorem eq_of_sameAll : ∀ {ss ts : List ValueType}, sameAll ss ts = true → ss = ts
  | [], ts, h => by cases ts <;> simp [sameAll] at h ⊢
  | s :: ss, ts, h => by
    cases ts with
    | nil => simp [sameAll] at h
    | cons t ts =>
      simp only [sameAll, Bool.and_eq_true] at h
      rw [eq_of_same h.1, eq_of_sameAll h.2]

end

instance : DecidableEq ValueType := fun s t =>
  decidable_of_iff (same s t = true) ⟨eq_of_same, fun h => h ▸ same_self s⟩

/-! ## Text -/

mutual

/-- The type as a type expression. A pair is written with `pair of … and …`, any other tuple with
`tuple of` and commas, the last component behind `and`. -/
def text : ValueType → String
  | .integer => "integer"
  | .float => "float"
  | .boolean => "boolean"
  | .string => "string"
  | .array t => "array of " ++ t.text
  | .tuple [] => "tuple of "
  | .tuple [t] => "tuple of  and " ++ t.text
  | .tuple [s, t] => "pair of " ++ s.text ++ " and " ++ t.text
  | .tuple (t :: ts) => "tuple of " ++ t.text ++ followers ts
  | .custom name => name

/-- The components of a tuple after the first, each behind its separator. -/
def followers : List ValueType → String
  | [] => ""
  | [t] => " and " ++ t.text
  | t :: ts => ", " ++ t.text ++ followers ts

end

/-! ## Queries -/

/-- One of the four types without parts and without a name of its own. -/
def isScalar : ValueType → Bool
  | .integer | .float | .boolean | .string => true
  | _ => false

/-- Whether the type is an array. -/
def isArray : ValueType → Bool
  | .array _ => true
  | _ => false

/-- The element type of an array. -/
def element? : ValueType → Option ValueType
  | .array t => some t
  | _ => none

mutual

/-- The first custom name, parents before components and components from left to right. -/
def findCustom? : ValueType → Option String
  | .custom name => some name
  | .array t => t.findCustom?
  | .tuple ts => findCustomAmong? ts
  | _ => none

/-- The first custom name in a list of types. -/
def findCustomAmong? : List ValueType → Option String
  | [] => none
  | t :: ts => t.findCustom?.or (findCustomAmong? ts)

end

mutual

/-- The type and every type nested in it, parents before components and components from left to
right. -/
def walk : ValueType → List ValueType
  | .array t => .array t :: t.walk
  | .tuple ts => .tuple ts :: walkAll ts
  | t => [t]

/-- The walks of a list of types, one after the other. -/
def walkAll : List ValueType → List ValueType
  | [] => []
  | t :: ts => t.walk ++ walkAll ts

end

example : (tuple [.integer, .array .float, .custom "node"]).text =
    "tuple of integer, array of float and node" := by decide

/-! ## Induction -/

/-- A property of a type may be shown by that of its element or of its components. -/
@[elab_as_elim]
theorem nested_induction {motive : ValueType → Prop}
    (scalar : ∀ type, type.isScalar = true → motive type)
    (array : ∀ element, motive element → motive (.array element))
    (tuple : ∀ components, (∀ component ∈ components, motive component) →
      motive (.tuple components))
    (custom : ∀ name, motive (.custom name)) (type : ValueType) : motive type :=
  ValueType.rec (motive_1 := motive) (motive_2 := fun types => ∀ type ∈ types, motive type)
    (scalar _ rfl) (scalar _ rfl) (scalar _ rfl) (scalar _ rfl) array tuple custom
    (fun _ h => absurd h List.not_mem_nil)
    (fun _ _ hfirst hothers _ h =>
      (List.mem_cons.mp h).elim (fun heq => heq ▸ hfirst) (hothers _))
    type

end ValueType

end StarterCode
