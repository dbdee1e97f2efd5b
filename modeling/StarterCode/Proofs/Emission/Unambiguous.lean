import StarterCode.Language.Cpp
import StarterCode.Language.JavaScript
import StarterCode.Language.Rust
import StarterCode.Proofs.Emission.Spelling
import StarterCode.Proofs.Text.Joined

/-!
# Different types are spelled differently

A spelling is one string, in which the types of components are nested between brackets and
separators. For it to stand for one type only, the type must be read back from it.

In most tables the beginning of a spelling, all of a word or a template up to its slot, tells of
which kind the type is, since no beginning continues another one (`Spelling.PrefixFree`). What
follows is the spelling of a component, so reading goes on in the same way, and no spelling can be
the front of another (`PrefixFree.delimits`).

The types in comments are written the other way round: an array is its element with a pair of
brackets behind it. Such a spelling is read from its end. Whole numbers and numbers with a fraction
have one word there, so what is read back is the type with the latter replaced by the former
(`delimits_reverse`).
-/

set_option autoImplicit false

namespace StarterCode

/-! ## Plain types -/

namespace ValueType

/-- A type that can be spelled everywhere: without custom names, and with two components at least in
each of its tuples. -/
structure Plain (type : ValueType) : Prop where
  /-- There is no custom name. -/
  custom_notMem : ∀ name, .custom name ∉ type.walk
  /-- Each tuple has two components at least. -/
  two_le_length : ∀ components, .tuple components ∈ type.walk → 2 ≤ components.length

mutual

/-- The type with whole numbers in the place of numbers with a fractional part. -/
def withoutFloats : ValueType → ValueType
  | .float => .integer
  | .array element => .array element.withoutFloats
  | .tuple components => .tuple (withoutFloatsAll components)
  | type => type

/-- The types with whole numbers in the place of numbers with a fractional part. -/
def withoutFloatsAll : List ValueType → List ValueType
  | [] => []
  | type :: types => type.withoutFloats :: withoutFloatsAll types

end

theorem withoutFloatsAll_eq_map (types : List ValueType) :
    withoutFloatsAll types = types.map withoutFloats := by
  induction types with
  | nil => rfl
  | cons type types ih => rw [withoutFloatsAll, ih, List.map_cons]

theorem walk_of_isScalar {type : ValueType} (h : type.isScalar = true) : type.walk = [type] := by
  cases type <;> first | rfl | cases h

theorem mem_walk_self (type : ValueType) : type ∈ type.walk := by
  cases type <;> simp [walk]

theorem mem_walkAll {types : List ValueType} {inner : ValueType} :
    inner ∈ walkAll types ↔ ∃ type ∈ types, inner ∈ type.walk := by
  induction types with
  | nil => simp [walkAll]
  | cons type types ih => simp [walkAll, ih]

theorem not_plain_custom (name : String) : ¬ (custom name).Plain := fun h =>
  h.custom_notMem name (mem_walk_self _)

theorem Plain.element {element : ValueType} (h : (array element).Plain) : element.Plain where
  custom_notMem name hname := h.custom_notMem name (by simp [walk, hname])
  two_le_length components hmem := h.two_le_length components (by simp [walk, hmem])

theorem Plain.component {components : List ValueType} (h : (tuple components).Plain)
    {component : ValueType} (hmem : component ∈ components) : component.Plain where
  custom_notMem name hname :=
    h.custom_notMem name (List.mem_cons_of_mem _ (mem_walkAll.mpr ⟨component, hmem, hname⟩))
  two_le_length inner hinner :=
    h.two_le_length inner (List.mem_cons_of_mem _ (mem_walkAll.mpr ⟨component, hmem, hinner⟩))

theorem Plain.components_ne_nil {components : List ValueType} (h : (tuple components).Plain) :
    components ≠ [] := by
  have hlength : 2 ≤ components.length := h.two_le_length components (mem_walk_self _)
  exact List.ne_nil_of_length_pos (by omega)

end ValueType

/-! ## Spellings as letters -/

namespace Spelling

variable {spelling : Spelling} {s t : ValueType}

/-- The letters of a template in front of its slot. -/
def front (template : String) : List Char :=
  template.toList.takeWhile (· != '\x7b')

/-- The letters of a template behind its slot. -/
def back (template : String) : List Char :=
  (template.toList.dropWhile (· != '\x7b')).drop slot.toList.length

/-- The template has a slot. -/
def HasSlot (template : String) : Prop :=
  template.toList = front template ++ '\x7b' :: '\x7d' :: back template

instance (template : String) : Decidable (HasSlot template) := by
  unfold HasSlot
  infer_instance

theorem toList_fill {template : String} (h : HasSlot template) (inner : String) :
    (fill template inner).toList = front template ++ inner.toList ++ back template := by
  have hfront : '\x7b' ∉ front template := by
    intro hmem
    have hall := List.all_takeWhile (p := (· != '\x7b')) (l := template.toList)
    simpa using List.all_eq_true.mp hall _ hmem
  rw [fill, String.toList_ofList, h, Text.replaceFirst_append hfront]

/-- The letters of the spelling of a type, none if it has no spelling. -/
def letters (spelling : Spelling) (type : ValueType) : List Char :=
  ((spelling.spell? type).getD "").toList

/-- Plain types are spelled by every table. -/
theorem isSome_spell?_of_plain (spelling : Spelling) (h : t.Plain) :
    (spelling.spell? t).isSome = true :=
  (spelling.isSome_spell? t).mpr fun name hname => absurd hname (h.custom_notMem name)

theorem spellAll?_eq_some {types : List ValueType}
    (h : ∀ type ∈ types, (spelling.spell? type).isSome = true) :
    spelling.spellAll? types =
      some (types.map fun type => (spelling.spell? type).getD "") := by
  induction types with
  | nil => rfl
  | cons type types ih =>
    obtain ⟨text, htext⟩ := Option.isSome_iff_exists.mp (h type List.mem_cons_self)
    rw [spellAll?, ih fun other hother => h other (List.mem_cons_of_mem _ hother), htext]
    simp [htext]

theorem letters_array (hslot : HasSlot spelling.array) {element : ValueType} (h : element.Plain) :
    spelling.letters (.array element) =
      front spelling.array ++ spelling.letters element ++ back spelling.array := by
  obtain ⟨text, htext⟩ := Option.isSome_iff_exists.mp (spelling.isSome_spell?_of_plain h)
  rw [letters, spell?, letters, htext]
  exact toList_fill hslot text

theorem letters_tuple {components : List ValueType}
    (hslot : HasSlot (spelling.tupleTemplate components.length))
    (h : ∀ component ∈ components, component.Plain) :
    spelling.letters (.tuple components) =
      front (spelling.tupleTemplate components.length) ++
        spelling.separator.toList.intercalate (components.map spelling.letters) ++
        back (spelling.tupleTemplate components.length) := by
  rw [letters, spell?, spellAll?_eq_some fun component hmem =>
    spelling.isSome_spell?_of_plain (h component hmem)]
  simp only [Option.map_some, Option.getD_some]
  rw [toList_fill hslot, String.toList_intercalate, List.map_map]
  rfl

/-! ## Read from the front -/

/-- How the spelling of a type begins. -/
def opening (spelling : Spelling) : ValueType → List Char
  | .integer => spelling.integer.toList
  | .float => spelling.float.toList
  | .boolean => spelling.boolean.toList
  | .string => spelling.string.toList
  | .array _ => front spelling.array
  | .tuple components => front (spelling.tupleTemplate components.length)
  | .custom _ => []

/-- The number of the kind of a type. -/
def rank : ValueType → Nat
  | .integer => 0
  | .float => 1
  | .boolean => 2
  | .string => 3
  | .array _ => 4
  | .tuple _ => 5
  | .custom _ => 6

/-- The beginnings of spellings by the kind of the type, where tuples have the given template. -/
def openings (spelling : Spelling) (template : String) : List (List Char) :=
  [spelling.integer.toList, spelling.float.toList, spelling.boolean.toList,
    spelling.string.toList, front spelling.array, front template]

/-- A table by which a type is read back from the front of its spelling. -/
structure PrefixFree (spelling : Spelling) : Prop where
  /-- All templates have a slot. -/
  hasSlot : ∀ template ∈ [spelling.array, spelling.pair, spelling.tuple], HasSlot template
  /-- The beginning of a spelling does not continue that of another kind. -/
  openings : ∀ template ∈ [spelling.pair, spelling.tuple],
    (spelling.openings template).Pairwise Text.Apart
  /-- Tuples begin alike or in different ways. -/
  tuples : front spelling.pair = front spelling.tuple ∨
    Text.Apart (front spelling.pair) (front spelling.tuple)
  /-- Behind a component it is seen whether another one follows. -/
  separator : ∀ template ∈ [spelling.pair, spelling.tuple],
    Text.Apart spelling.separator.toList (back template)

theorem tupleTemplate_mem (spelling : Spelling) (arity : Nat) :
    spelling.tupleTemplate arity ∈ [spelling.pair, spelling.tuple] := by
  unfold tupleTemplate
  split <;> simp

namespace PrefixFree

theorem hasSlot_tupleTemplate (h : spelling.PrefixFree) (arity : Nat) :
    HasSlot (spelling.tupleTemplate arity) :=
  h.hasSlot _ (List.mem_cons_of_mem _ (spelling.tupleTemplate_mem arity))

theorem eq_of_rank_eq (hs : s.isScalar = true) (hrank : rank s = rank t) : s = t := by
  cases s with
  | array | tuple | custom => cases hs
  | _ => cases t <;> first | rfl | cases hrank

/-- A beginning is found in the list of beginnings at the number of its kind. -/
theorem getElem?_openings {template : String} (hcustom : ∀ name, t ≠ .custom name)
    (htuple : ∀ components, t = .tuple components →
      spelling.tupleTemplate components.length = template) :
    (spelling.openings template)[rank t]? = some (spelling.opening t) := by
  cases t with
  | tuple components =>
    rw [opening, htuple components rfl]
    rfl
  | custom name => exact absurd rfl (hcustom name)
  | _ => rfl

/-- Which kind a type is of is told by how its spelling begins. -/
theorem rank_eq_of_opening (h : spelling.PrefixFree) (hs : ∀ name, s ≠ .custom name)
    (ht : ∀ name, t ≠ .custom name)
    (hnot : ¬ Text.Apart (spelling.opening s) (spelling.opening t)) : rank s = rank t := by
  by_cases hboth : rank s = 5 ∧ rank t = 5
  · omega
  -- one template serves both types, since one of them at most is a tuple
  obtain ⟨template, hmem, hstuple, httuple⟩ : ∃ template ∈ [spelling.pair, spelling.tuple],
      (∀ components, s = .tuple components →
        spelling.tupleTemplate components.length = template) ∧
      (∀ components, t = .tuple components →
        spelling.tupleTemplate components.length = template) := by
    by_cases hrank : rank s = 5
    · cases s with
      | tuple components =>
        refine ⟨_, spelling.tupleTemplate_mem components.length, ?_, ?_⟩
        · rintro _ ⟨⟩
          rfl
        · rintro _ rfl
          exact absurd ⟨rfl, rfl⟩ hboth
      | _ => cases hrank
    · cases t with
      | tuple components =>
        refine ⟨_, spelling.tupleTemplate_mem components.length, ?_, ?_⟩
        · rintro _ rfl
          exact absurd rfl hrank
        · rintro _ ⟨⟩
          rfl
      | _ =>
        refine ⟨_, List.mem_cons_self, ?_, ?_⟩
        · rintro _ rfl
          exact absurd rfl hrank
        · rintro _ ⟨⟩
  -- different kinds have different places in the list, and places are pairwise apart
  have hpairwise := List.pairwise_iff_getElem.mp (h.openings template hmem)
  obtain ⟨hsrank, hsopening⟩ := List.getElem?_eq_some_iff.mp (getElem?_openings hs hstuple)
  obtain ⟨htrank, htopening⟩ := List.getElem?_eq_some_iff.mp (getElem?_openings ht httuple)
  rcases Nat.lt_trichotomy (rank s) (rank t) with hlt | heq | hlt
  · have hapart := hpairwise _ _ hsrank htrank hlt
    rw [hsopening, htopening] at hapart
    exact absurd hapart hnot
  · exact heq
  · have hapart := hpairwise _ _ htrank hsrank hlt
    rw [hsopening, htopening] at hapart
    exact absurd ⟨hapart.2, hapart.1⟩ hnot

theorem opening_prefix (h : spelling.PrefixFree) (ht : t.Plain) :
    spelling.opening t <+: spelling.letters t := by
  cases t with
  | array element =>
    rw [letters_array (h.hasSlot _ List.mem_cons_self) ht.element, List.append_assoc]
    exact List.prefix_append _ _
  | tuple components =>
    rw [letters_tuple (h.hasSlot_tupleTemplate _) fun _ => ht.component, List.append_assoc]
    exact List.prefix_append _ _
  | custom name => exact absurd ht (ValueType.not_plain_custom name)
  | _ => exact List.prefix_refl _

/-- Types whose spellings begin equal texts are of one kind. -/
theorem rank_eq (h : spelling.PrefixFree) (hs : s.Plain) (ht : t.Plain) {rest rest' : List Char}
    (heq : spelling.letters s ++ rest = spelling.letters t ++ rest') : rank s = rank t := by
  apply h.rank_eq_of_opening
  · rintro name rfl
    exact ValueType.not_plain_custom name hs
  · rintro name rfl
    exact ValueType.not_plain_custom name ht
  · intro hapart
    obtain ⟨behind, hbehind⟩ := h.opening_prefix hs
    obtain ⟨behind', hbehind'⟩ := h.opening_prefix ht
    rw [← hbehind, ← hbehind', List.append_assoc, List.append_assoc] at heq
    exact hapart.append_ne _ _ heq

/-- Two tuples whose spellings begin equal texts begin alike, whatever their arities. -/
theorem front_tupleTemplate_eq (h : spelling.PrefixFree) {arity arity' : Nat}
    {rest rest' : List Char}
    (heq : front (spelling.tupleTemplate arity) ++ rest =
      front (spelling.tupleTemplate arity') ++ rest') :
    front (spelling.tupleTemplate arity) = front (spelling.tupleTemplate arity') := by
  unfold tupleTemplate at heq ⊢
  rcases h.tuples with hsame | hapart
  · split <;> split <;> simp [hsame]
  · split at heq <;> split at heq
    · simp [*]
    · exact absurd heq (hapart.append_ne _ _)
    · exact absurd heq.symm (hapart.append_ne _ _)
    · simp [*]

/-- **Reading from the front.** By a prefix-free table a plain type is read back from any text that
its spelling begins. -/
theorem delimits (h : spelling.PrefixFree) (hs : s.Plain) (ht : t.Plain) :
    Text.Delimits spelling.letters id s t := by
  -- by induction on one type: the other is of the same kind, by how the spellings begin
  induction s using ValueType.nested_induction generalizing t with
  | scalar s hscalar =>
    intro rest rest' heq
    have hsame : s = t := eq_of_rank_eq hscalar (h.rank_eq hs ht heq)
    subst hsame
    exact ⟨rfl, List.append_cancel_left heq⟩
  | array element ih =>
    intro rest rest' heq
    have hrank := h.rank_eq hs ht heq
    cases t with
    | array element' =>
      have hslot := h.hasSlot _ List.mem_cons_self
      rw [letters_array hslot hs.element, letters_array hslot ht.element] at heq
      simp only [List.append_assoc, List.append_cancel_left_eq] at heq
      obtain ⟨helement, hrest⟩ := ih hs.element ht.element _ _ heq
      exact ⟨congrArg ValueType.array helement, List.append_cancel_left hrest⟩
    | _ => cases hrank
  | tuple components ih =>
    intro rest rest' heq
    have hrank := h.rank_eq hs ht heq
    cases t with
    | tuple components' =>
      rw [letters_tuple (h.hasSlot_tupleTemplate _) fun _ => hs.component,
        letters_tuple (h.hasSlot_tupleTemplate _) fun _ => ht.component] at heq
      simp only [List.append_assoc] at heq
      rw [h.front_tupleTemplate_eq heq, List.append_cancel_left_eq] at heq
      -- the components come first, for only their number tells that both are closed alike
      obtain ⟨hcomponents, hclosing⟩ := Text.Delimits.joined
        (h.separator _ (spelling.tupleTemplate_mem _))
        (h.separator _ (spelling.tupleTemplate_mem _)) hs.components_ne_nil ht.components_ne_nil
        (fun a ha b hb => ih a ha (hs.component ha) (ht.component hb)) heq
      rw [List.map_id, List.map_id] at hcomponents
      subst hcomponents
      exact ⟨rfl, List.append_cancel_left hclosing⟩
    | _ => cases hrank
  | custom name => exact absurd hs (ValueType.not_plain_custom name)

/-- Plain types with one spelling are one type. -/
theorem eq_of_spell?_eq (h : spelling.PrefixFree) (hs : s.Plain) (ht : t.Plain)
    (heq : spelling.spell? s = spelling.spell? t) : s = t := by
  have hletters : spelling.letters s = spelling.letters t := by rw [letters, heq, letters]
  exact (h.delimits hs ht [] [] (congrArg (· ++ []) hletters)).1

end PrefixFree

end Spelling

theorem Cpp.prefixFree : Cpp.spelling.PrefixFree := by
  constructor <;> decide

theorem Rust.prefixFree : Rust.spelling.PrefixFree := by
  constructor <;> decide

namespace JavaScript

variable {s t : ValueType}

theorem prefixFree_readers : readers.PrefixFree := by
  constructor <;> decide

/-! ## Read from the end -/

/-- The letter with which the spelling of a type in comments ends. -/
def lastLetter : ValueType → Char
  | .integer | .float => 'r'
  | .boolean => 'n'
  | .string => 'g'
  | .array _ | .tuple _ => ']'
  | .custom _ => ' '

/-- The spelling of a type in comments, read from its end. -/
def backwards (type : ValueType) : List Char :=
  (spelling.letters type).reverse

theorem backwards_array {element : ValueType} (h : element.Plain) :
    backwards (.array element) = ']' :: '[' :: backwards element := by
  have hfront : Spelling.front spelling.array = [] := by decide
  have hback : Spelling.back spelling.array = ['[', ']'] := by decide
  rw [backwards, Spelling.letters_array (by decide) h, hfront, hback, List.nil_append,
    List.reverse_append]
  rfl

theorem backwards_tuple {components : List ValueType}
    (h : ∀ component ∈ components, component.Plain) :
    backwards (.tuple components) =
      ']' :: ([' ', ','].intercalate (components.reverse.map backwards) ++ ['[']) := by
  have htemplate : spelling.tupleTemplate components.length = spelling.tuple := ite_self _
  rw [backwards, Spelling.letters_tuple (htemplate ▸ by decide) h, htemplate, List.reverse_append,
    List.reverse_append, Text.reverse_intercalate, ← List.map_reverse, List.map_map]
  rfl

theorem exists_backwards (h : t.Plain) : ∃ rest, backwards t = lastLetter t :: rest := by
  cases t with
  | array element => exact ⟨_, backwards_array h.element⟩
  | tuple components => exact ⟨_, backwards_tuple fun _ => h.component⟩
  | custom name => exact absurd h (ValueType.not_plain_custom name)
  | _ => exact ⟨_, rfl⟩

/-- A text begins with a separated list as it begins with the first part. -/
theorem exists_backwards_joined {components : List ValueType} (hne : components ≠ [])
    (h : ∀ component ∈ components, component.Plain) : ∃ component ∈ components, ∃ rest,
      [' ', ','].intercalate (components.map backwards) = lastLetter component :: rest := by
  obtain ⟨first, others, rfl⟩ := List.exists_cons_of_ne_nil hne
  obtain ⟨rest, hrest⟩ := exists_backwards (h first List.mem_cons_self)
  refine ⟨first, List.mem_cons_self, ?_⟩
  by_cases hothers : others = []
  · subst hothers
    exact ⟨rest, by simp [hrest]⟩
  · rw [List.map_cons, List.intercalate_cons_of_ne_nil (by simpa using hothers), hrest]
    exact ⟨_, rfl⟩

/-- An array is not read for a tuple: in its place a component would end with an opening bracket. -/
theorem backwards_array_ne_tuple {element : ValueType} {components : List ValueType}
    (helement : element.Plain) (h : (ValueType.tuple components).Plain) (rest rest' : List Char) :
    backwards (.array element) ++ rest ≠ backwards (.tuple components) ++ rest' := by
  have hplain : ∀ component ∈ components.reverse, component.Plain := fun _ hmem =>
    h.component (List.mem_reverse.mp hmem)
  obtain ⟨component, -, behind, hbehind⟩ :=
    exists_backwards_joined (List.reverse_eq_nil_iff.not.mpr h.components_ne_nil) hplain
  rw [backwards_array helement, backwards_tuple fun _ => h.component, hbehind]
  have hletter : lastLetter component ≠ '[' := by
    cases component <;> simp [lastLetter]
  intro heq
  simp only [List.cons_append, List.cons.injEq, true_and] at heq
  exact hletter heq.1.symm

/-- A scalar type is told by the last letter, up to the difference between numbers. -/
theorem scalar_of_lastLetter (hs : s.isScalar = true) (ht : t.Plain)
    (hletter : lastLetter s = lastLetter t) :
    s.withoutFloats = t.withoutFloats ∧ backwards s = backwards t := by
  cases s with
  | array | tuple | custom => cases hs
  | _ =>
    cases t with
    | custom name => exact absurd ht (ValueType.not_plain_custom name)
    | _ => simp [lastLetter] at hletter <;> exact ⟨rfl, rfl⟩

/-- **Reading from the end.** A plain type is read back from any text that its spelling in comments
ends, up to the difference between numbers. -/
theorem delimits_backwards (hs : s.Plain) (ht : t.Plain) :
    Text.Delimits backwards ValueType.withoutFloats s t := by
  -- arrays and tuples end with the same bracket, so the other type may be of either kind
  induction s using ValueType.nested_induction generalizing t with
  | custom name => exact absurd hs (ValueType.not_plain_custom name)
  | scalar s hscalar =>
    intro rest rest' heq
    have hletter : lastLetter s = lastLetter t := by
      obtain ⟨behind, hbehind⟩ := exists_backwards hs
      obtain ⟨behind', hbehind'⟩ := exists_backwards ht
      rw [hbehind, hbehind'] at heq
      exact List.head_eq_of_cons_eq heq
    obtain ⟨hsame, hbackwards⟩ := scalar_of_lastLetter hscalar ht hletter
    rw [hbackwards] at heq
    exact ⟨hsame, List.append_cancel_left heq⟩
  | array element ih =>
    intro rest rest' heq
    cases t with
    | array element' =>
      rw [backwards_array hs.element, backwards_array ht.element] at heq
      simp only [List.cons_append, List.cons.injEq, true_and] at heq
      obtain ⟨helement, hrest⟩ := ih hs.element ht.element _ _ heq
      exact ⟨congrArg ValueType.array helement, hrest⟩
    | tuple components => exact absurd heq (backwards_array_ne_tuple hs.element ht _ _)
    | custom name => exact absurd ht (ValueType.not_plain_custom name)
    | _ =>
      rw [backwards_array hs.element] at heq
      exact absurd (List.head_eq_of_cons_eq heq) (by decide)
  | tuple components ih =>
    intro rest rest' heq
    cases t with
    | array element => exact absurd heq.symm (backwards_array_ne_tuple ht.element hs _ _)
    | tuple components' =>
      rw [backwards_tuple fun _ => hs.component, backwards_tuple fun _ => ht.component] at heq
      simp only [List.cons_append, List.append_assoc, List.cons.injEq, true_and] at heq
      -- read from the end, the components come in reverse, and so do separator and bracket
      have hapart : Text.Apart [' ', ','] ['['] := by decide
      obtain ⟨hcomponents, hclosing⟩ := Text.Delimits.joined hapart hapart
        (List.reverse_eq_nil_iff.not.mpr hs.components_ne_nil)
        (List.reverse_eq_nil_iff.not.mpr ht.components_ne_nil)
        (fun a ha b hb => ih a (List.mem_reverse.mp ha) (hs.component (List.mem_reverse.mp ha))
          (ht.component (List.mem_reverse.mp hb))) heq
      rw [List.map_reverse, List.map_reverse, List.reverse_inj] at hcomponents
      rw [ValueType.withoutFloats, ValueType.withoutFloats, ValueType.withoutFloatsAll_eq_map,
        ValueType.withoutFloatsAll_eq_map, hcomponents]
      exact ⟨rfl, List.append_cancel_left hclosing⟩
    | custom name => exact absurd ht (ValueType.not_plain_custom name)
    | _ =>
      rw [backwards_tuple fun _ => hs.component] at heq
      exact absurd (List.head_eq_of_cons_eq heq) (by decide)

/-- In comments a type is spelled as if all of its numbers were whole. -/
theorem spell?_withoutFloats (type : ValueType) :
    spelling.spell? type.withoutFloats = spelling.spell? type := by
  induction type using ValueType.nested_induction with
  | scalar type hscalar => cases type <;> first | rfl | cases hscalar
  | custom name => rfl
  | array element ih => rw [ValueType.withoutFloats, Spelling.spell?, ih, Spelling.spell?]
  | tuple components ih =>
    have hall : spelling.spellAll? (components.map ValueType.withoutFloats) =
        spelling.spellAll? components := by
      induction components with
      | nil => rfl
      | cons first others ihothers =>
        rw [List.map_cons, Spelling.spellAll?, ih first List.mem_cons_self,
          ihothers fun other hother => ih other (List.mem_cons_of_mem _ hother),
          Spelling.spellAll?]
    rw [ValueType.withoutFloats, ValueType.withoutFloatsAll_eq_map, Spelling.spell?, hall,
      List.length_map, Spelling.spell?]

/-- Plain types have one spelling in comments when they differ in their numbers only. -/
theorem spell?_eq_iff (hs : s.Plain) (ht : t.Plain) :
    spelling.spell? s = spelling.spell? t ↔ s.withoutFloats = t.withoutFloats := by
  constructor
  · intro heq
    have hbackwards : backwards s = backwards t := by
      rw [backwards, Spelling.letters, heq, backwards, Spelling.letters]
    exact (delimits_backwards hs ht [] [] (congrArg (· ++ []) hbackwards)).1
  · intro heq
    rw [← spell?_withoutFloats s, heq, spell?_withoutFloats]

end JavaScript

/-! ## All tables -/

/-- **Different types are spelled differently.** Every table spells every plain type, and no table
spells two of them alike, with one exception: in comments, whole numbers and numbers with a
fractional part are the same. -/
theorem spellings_unambiguous (s t : ValueType) (hs : s.Plain) (ht : t.Plain) :
    (∀ spelling ∈ [Cpp.spelling, Rust.spelling, JavaScript.readers, JavaScript.spelling],
      ∃ text text', spelling.spell? s = some text ∧ spelling.spell? t = some text') ∧
    (Cpp.spelling.spell? s = Cpp.spelling.spell? t → s = t) ∧
    (Rust.spelling.spell? s = Rust.spelling.spell? t → s = t) ∧
    (JavaScript.readers.spell? s = JavaScript.readers.spell? t → s = t) ∧
    (JavaScript.spelling.spell? s = JavaScript.spelling.spell? t ↔
      s.withoutFloats = t.withoutFloats) := by
  refine ⟨?_, Cpp.prefixFree.eq_of_spell?_eq hs ht, Rust.prefixFree.eq_of_spell?_eq hs ht,
    JavaScript.prefixFree_readers.eq_of_spell?_eq hs ht, JavaScript.spell?_eq_iff hs ht⟩
  intro spelling _
  obtain ⟨text, htext⟩ := Option.isSome_iff_exists.mp (spelling.isSome_spell?_of_plain hs)
  obtain ⟨text', htext'⟩ := Option.isSome_iff_exists.mp (spelling.isSome_spell?_of_plain ht)
  exact ⟨text, text', htext, htext'⟩

/-- Two pairs of numbers, told apart in code and not in comments. -/
theorem spellings_unambiguous_pairs :
    (ValueType.array (.pair .integer .float)).Plain ∧
      (ValueType.array (.pair .float .integer)).Plain ∧
      Cpp.spelling.spell? (.array (.pair .integer .float)) ≠
        Cpp.spelling.spell? (.array (.pair .float .integer)) ∧
      JavaScript.spelling.spell? (.array (.pair .integer .float)) =
        JavaScript.spelling.spell? (.array (.pair .float .integer)) := by
  have hs : (ValueType.array (.pair .integer .float)).Plain := by
    constructor <;> simp [ValueType.walk, ValueType.walkAll]
  have ht : (ValueType.array (.pair .float .integer)).Plain := by
    constructor <;> simp [ValueType.walk, ValueType.walkAll]
  obtain ⟨-, hcpp, -, -, hcomments⟩ := spellings_unambiguous _ _ hs ht
  refine ⟨hs, ht, fun heq => ?_, hcomments.mpr rfl⟩
  exact absurd (hcpp heq) (by decide)

end StarterCode
