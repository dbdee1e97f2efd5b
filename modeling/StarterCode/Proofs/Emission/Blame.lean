import StarterCode.Proofs.Emission.Spelling

/-!
# The custom name in an error

A type that cannot be spelled has a custom name without a spelling in it, and the error names a
custom name of the type. These need not be the same. Whether a type is spelled depends on all of its
custom names, but the error names the first of them, in the order parents before components and from
left to right, and takes no look at the table. So the name is that of a part without a spelling
exactly when the table has none for the first custom name. A table that knows no custom name at all,
as those of the three languages, never misleads.
-/

set_option autoImplicit false

namespace StarterCode

/-! ## Custom names -/

namespace ValueType

/-- The name of a custom type. -/
def customName? : ValueType → Option String
  | .custom name => some name
  | _ => none

/-- The custom names in a type, parents before components and components from left to right. -/
def customNames (type : ValueType) : List String :=
  type.walk.filterMap customName?

theorem mem_customNames {type : ValueType} {name : String} :
    name ∈ type.customNames ↔ .custom name ∈ type.walk := by
  rw [customNames, List.mem_filterMap]
  constructor
  · rintro ⟨inner, hinner, hname⟩
    cases inner with
    | custom other =>
      obtain rfl : other = name := Option.some.inj hname
      exact hinner
    | _ => cases hname
  · intro h
    exact ⟨.custom name, h, rfl⟩

mutual

/-- The search for a custom name goes through a type as the walk does. -/
theorem findCustom?_eq_head? : ∀ type : ValueType, type.findCustom? = type.customNames.head?
  | .integer | .float | .boolean | .string | .custom _ => rfl
  | .array element => findCustom?_eq_head? element
  | .tuple components => findCustomAmong?_eq_head? components

theorem findCustomAmong?_eq_head? : ∀ types : List ValueType,
    findCustomAmong? types = ((walkAll types).filterMap customName?).head?
  | [] => rfl
  | type :: types => by
    rw [findCustomAmong?, walkAll, List.filterMap_append, List.head?_append,
      findCustom?_eq_head? type, findCustomAmong?_eq_head? types]
    rfl

end

end ValueType

namespace Spelling

variable {spelling : Spelling} {type : ValueType} {context : String} {error : EmissionError}

/-- A type is not spelled when the table has no spelling for one of its custom names. -/
theorem spell?_eq_none_iff :
    spelling.spell? type = none ↔
      ∃ name ∈ type.customNames, spelling.custom.lookup name = none := by
  rw [← Option.not_isSome_iff_eq_none, isSome_spell?, Knows]
  simp only [ValueType.mem_customNames, Classical.not_forall, Option.not_isSome_iff_eq_none,
    exists_prop]

/-- What an error of spelling says, and when there is one. -/
theorem spellFor_eq_error :
    spelling.spellFor type context = .error error ↔
      (∃ name ∈ type.customNames, spelling.custom.lookup name = none) ∧
        ∃ first ∈ type.customNames.head?,
          error = ⟨spelling.language, .unspelled first, context⟩ := by
  rw [← spell?_eq_none_iff, spellFor]
  cases hspell : spelling.spell? type with
  | some spelled => simp
  | none =>
    -- there is a custom name, so the text of the whole type is not what is named
    obtain ⟨name, hname, -⟩ := spell?_eq_none_iff.mp hspell
    obtain ⟨first, hfirst⟩ : ∃ first, type.customNames.head? = some first := by
      cases hnames : type.customNames with
      | nil => rw [hnames] at hname; cases hname
      | cons first others => exact ⟨first, rfl⟩
    simp [ValueType.findCustom?_eq_head?, hfirst, eq_comm]

end Spelling

/-- **What a failed spelling names.** A type is not spelled exactly when the table has no spelling
for one of its custom names. The error then names the first custom name of the type, and this is the
first one without a spelling exactly when the table has no spelling for it. -/
theorem spellFor_names_unspelled_iff (spelling : Spelling) (type : ValueType) (context : String) :
    ((∃ error, spelling.spellFor type context = .error error) ↔
      ∃ name ∈ type.customNames, spelling.custom.lookup name = none) ∧
    ∀ error, spelling.spellFor type context = .error error →
      ∃ first unspelled, type.customNames.head? = some first ∧
        type.customNames.find? (fun name => (spelling.custom.lookup name).isNone) =
          some unspelled ∧
        error = ⟨spelling.language, .unspelled first, context⟩ ∧
        (error.item.text = "type '" ++ unspelled ++ "'" ↔ spelling.custom.lookup first = none) := by
  constructor
  · rw [← Spelling.spell?_eq_none_iff, Spelling.spellFor]
    cases spelling.spell? type with
    | some spelled => simp
    | none => simp
  · intro error herror
    obtain ⟨⟨name, hname, hnone⟩, first, hfirst, rfl⟩ := Spelling.spellFor_eq_error.mp herror
    obtain ⟨others, hnames⟩ := List.head?_eq_some_iff.mp hfirst
    have hfound : (type.customNames.find? fun name =>
        (spelling.custom.lookup name).isNone).isSome = true := by
      rw [List.find?_isSome]
      exact ⟨name, hname, by rw [hnone]; rfl⟩
    obtain ⟨unspelled, hunspelled⟩ := Option.isSome_iff_exists.mp hfound
    refine ⟨first, unspelled, hfirst, hunspelled, rfl, ?_⟩
    have hitem : Unemittable.text (.unspelled first) = "type '" ++ first ++ "'" := rfl
    have htext : "type '" ++ first ++ "'" = "type '" ++ unspelled ++ "'" ↔ first = unspelled := by
      simp [← String.toList_inj]
    rw [hitem, htext]
    constructor
    · rintro rfl
      have hnone := List.find?_some (p := fun name => (spelling.custom.lookup name).isNone)
        hunspelled
      exact Option.isNone_iff_eq_none.mp hnone
    · intro hlookup
      rw [hnames, List.find?_cons_of_pos (by simp [hlookup])] at hunspelled
      exact Option.some.inj hunspelled

/-- A table that spells one custom name. -/
def nodeSpelling : Spelling where
  language := .cpp
  integer := "I"
  float := "F"
  boolean := "B"
  string := "S"
  array := "Seq<" ++ slot ++ ">"
  pair := "P<" ++ slot ++ ">"
  tuple := "T<" ++ slot ++ ">"
  separator := "; "
  custom := [("node", "Node*")]

/-- The name behind the one without a spelling is not looked at. -/
theorem spellFor_names_unspelled_iff_quaternion :
    ∃ error, nodeSpelling.spellFor (.array (.pair (.custom "quaternion") (.custom "node")))
        "parameter 'x'" = .error error ∧ error.item.text = "type 'quaternion'" := by
  obtain ⟨hfails, hnames⟩ := spellFor_names_unspelled_iff nodeSpelling
    (.array (.pair (.custom "quaternion") (.custom "node"))) "parameter 'x'"
  obtain ⟨error, herror⟩ := hfails.mpr ⟨"quaternion", by decide, by decide⟩
  obtain ⟨first, unspelled, hfirst, hunspelled, -, hitem⟩ := hnames error herror
  obtain rfl : "quaternion" = first := Option.some.inj hfirst
  obtain rfl : "quaternion" = unspelled := Option.some.inj hunspelled
  exact ⟨error, herror, hitem.mpr (by decide)⟩

/-- A custom name with a spelling may take the blame for one without that stands behind it. -/
theorem exists_misleading_error :
    ∃ error, nodeSpelling.spellFor (.pair (.custom "node") (.custom "quaternion"))
        "parameter 'x'" = .error error ∧ error.item.text = "type 'node'" ∧
      nodeSpelling.custom.lookup "node" = some "Node*" ∧
      ∀ name ∈ (ValueType.pair (.custom "node") (.custom "quaternion")).customNames,
        nodeSpelling.custom.lookup name = none → error.item.text ≠ "type '" ++ name ++ "'" := by
  refine ⟨⟨.cpp, .unspelled "node", "parameter 'x'"⟩, rfl, by decide, by decide, ?_⟩
  intro name hname hnone
  have hnames : (ValueType.pair (.custom "node") (.custom "quaternion")).customNames =
      ["node", "quaternion"] := by decide
  rw [hnames, List.mem_cons, List.mem_singleton] at hname
  rcases hname with rfl | rfl
  · cases hnone
  · decide

end StarterCode
