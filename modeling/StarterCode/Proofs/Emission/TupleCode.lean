import StarterCode.Language.Rust
import StarterCode.Proofs.Emission.Letters
import StarterCode.Proofs.Text.Numbers

/-!
# The implementations for one size of tuples

For tuples of one size a program has two implementations. Their text is generated, with a part for
each component, and it is read back here: the first line of an implementation tells the trait and
the size (`Rust.implementationHead_eq_iff`), and the numbers of the components that are read or
written are those from zero to the size, in order (`Rust.numbersBetween_componentReads`).

A line that begins an implementation for tuples is known by its first word and by the parenthesis
behind the trait. Of each implementation this is the first line and no other one
(`Rust.filter_tupleCode`).
-/

set_option autoImplicit false

namespace StarterCode.Rust

open Code

/-! ## The lines of an implementation -/

/-- The line begins an implementation, maybe behind blanks. -/
def beginsImplementation (line : String) : Bool :=
  "impl".toList.isPrefixOf (Text.trimLeft line.toList)

/-- The line begins the implementation of a trait for tuples. -/
def implementsForTuples (line : String) : Bool :=
  beginsImplementation line && Text.occurs " for (".toList line.toList

/-- The line that begins the implementation of a trait for tuples of one size. -/
def implementationHead (trait : String) (size : Nat) : String :=
  "impl<" ++ components size (fun i => "T" ++ i ++ ": " ++ trait) ++ "> " ++ trait ++
    " for (" ++ components size (fun i => "T" ++ i) ++ ") \x7b"

/-- The implementations of both traits for tuples of one size, with the expressions that are read
and written. -/
def implementationPair (size : Nat) (reads writes : String) : Code := [
  implementationHead "ReadValue" size,
  "    fn read_value(reader: &mut TokenReader) -> Self \x7b",
  "        (" ++ reads ++ ")",
  "    \x7d",
  "\x7d",
  "",
  implementationHead "WriteValue" size,
  "    fn write_value(&self) -> String \x7b",
  "        [" ++ writes ++ "].join(\" \")",
  "    \x7d",
  "\x7d"]

/-- What is read for the components of a tuple. -/
def componentReads (size : Nat) : String :=
  components size fun i => "T" ++ i ++ "::read_value(reader)"

/-- What is written for the components of a tuple. -/
def componentWrites (size : Nat) : String :=
  components size fun i => "self." ++ i ++ ".write_value()"

theorem tupleCode_eq (size : Nat) :
    tupleCode size = implementationPair size (componentReads size) (componentWrites size) := by
  have hround : ∀ rest, "    " ++ ("    " ++ ("(" ++ rest)) = "        (" ++ rest := fun rest => by
    rw [← String.append_assoc, ← String.append_assoc]
    rfl
  have hsquare : ∀ rest, "    " ++ ("    " ++ ("[" ++ rest)) = "        [" ++ rest := fun rest => by
    rw [← String.append_assoc, ← String.append_assoc]
    rfl
  simp [tupleCode, spaced_cons_cons, spaced_singleton, tupleImplementation, block, blockEnding,
    indented, implementationPair, implementationHead, componentReads, componentWrites, readHead,
    writeHead, String.append_assoc, hround, hsquare]

/-! ## The numbers in an implementation -/

theorem toList_components (size : Nat) (before after : String) :
    (components size fun i => before ++ i ++ after).toList =
      [',', ' '].intercalate
        ((List.range size).map (Text.numbered before.toList after.toList)) := by
  rw [components, String.toList_intercalate, List.map_map]
  refine congrArg _ (List.map_congr_left fun i _ => ?_)
  rw [Function.comp_apply, String.toList_append, String.toList_append, Text.toList_toString,
    List.append_assoc, Text.numbered]

/-- The numbers of the components are read back from their list. -/
theorem numbersBetween_components {c : Char} {front : List Char} {before after : String}
    (hbefore : before.toList = c :: front) (hmarks : Text.Marks c front after.toList)
    (hseparator : c ∉ [',', ' ']) (size : Nat) {rest : List Char}
    (hrest : Text.numbersBetween before.toList after.toList rest = []) :
    Text.numbersBetween before.toList after.toList
      ((components size fun i => before ++ i ++ after).toList ++ rest) = List.range size := by
  rw [toList_components]
  rw [hbefore] at hrest ⊢
  rw [hmarks.numbersBetween_intercalate hseparator, hrest, List.append_nil]

/-- The components of a tuple are read one after the other, each once. -/
theorem numbersBetween_componentReads (size : Nat) :
    Text.numbersBetween "T".toList "::read_value(reader)".toList (componentReads size).toList =
      List.range size := by
  have hmarks : Text.Marks 'T' [] "::read_value(reader)".toList :=
    ⟨by decide, by decide, by decide, ':', by decide, by decide⟩
  rw [← List.append_nil (componentReads size).toList]
  exact numbersBetween_components rfl hmarks (by decide) size rfl

/-- The components of a tuple are written one after the other, each once. -/
theorem numbersBetween_componentWrites (size : Nat) :
    Text.numbersBetween "self.".toList ".write_value()".toList (componentWrites size).toList =
      List.range size := by
  have hmarks : Text.Marks 's' "elf.".toList ".write_value()".toList :=
    ⟨by decide, by decide, by decide, '.', by decide, by decide⟩
  rw [← List.append_nil (componentWrites size).toList]
  exact numbersBetween_components rfl hmarks (by decide) size rfl

section Letters

variable {c : Char}

/-- A character that is no digit occurs in a list of components when it occurs in what is written
for each of them or between them. -/
theorem not_mem_components {component : String → String} (hdigit : c.isDigit = false)
    (hseparator : c ∉ ", ".toList)
    (hcomponent : ∀ number, c ∉ number.toList → c ∉ (component number).toList) (size : Nat) :
    c ∉ (components size component).toList := by
  apply not_mem_toList_intercalate hseparator
  intro text htext
  obtain ⟨i, -, rfl⟩ := List.mem_map.mp htext
  apply hcomponent
  rw [Text.toList_toString]
  exact Text.not_mem_toDigits hdigit i

theorem not_mem_implementationHead {trait : String} (hdigit : c.isDigit = false)
    (htrait : c ∉ trait.toList) (hfixed : c ∉ "impl<T: , > for () \x7b".toList) (size : Nat) :
    c ∉ (implementationHead trait size).toList := by
  simp only [String.reduceToList, List.mem_cons, List.not_mem_nil, not_or, or_false] at hfixed
  have hseparator : c ∉ ", ".toList := by simp [hfixed]
  have hbounds : c ∉ (components size fun i => "T" ++ i ++ ": " ++ trait).toList :=
    not_mem_components hdigit hseparator
      (fun number hnumber => by simp [hfixed, hnumber, htrait]) size
  have htypes : c ∉ (components size fun i => "T" ++ i).toList :=
    not_mem_components hdigit hseparator (fun number hnumber => by simp [hfixed, hnumber]) size
  simp [implementationHead, hbounds, htypes, hfixed, htrait]

end Letters

/-! ## Which lines begin implementations -/

/-- An implementation for tuples declares a type for each component. -/
theorem numbersBetween_implementationHead {trait : String} (hT : 'T' ∉ trait.toList)
    (hcolon : ':' ∉ trait.toList) (size : Nat) :
    Text.numbersBetween "T".toList (": " ++ trait).toList
      (implementationHead trait size).toList = List.range size := by
  have hmarks : Text.Marks 'T' [] (": " ++ trait).toList :=
    ⟨by decide, by decide, by simpa using hT, ':', by simp, by decide⟩
  have htypes : ':' ∉ (components size fun i => "T" ++ i).toList :=
    not_mem_components (by decide) (by decide) (fun number hnumber => by simp [hnumber]) size
  have hrest : Text.numbersBetween "T".toList (": " ++ trait).toList
      ("> " ++ trait ++ " for (" ++ components size (fun i => "T" ++ i) ++ ") \x7b").toList = [] :=
    Text.numbersBetween_of_not_mem (c := ':') (by simp) (by simp [hcolon, htypes])
  have hnumbers := numbersBetween_components rfl hmarks (by decide) size hrest
  have hhead : (implementationHead trait size).toList = "impl<".toList ++
      ((components size fun i => "T" ++ i ++ (": " ++ trait)).toList ++
        ("> " ++ trait ++ " for (" ++ components size (fun i => "T" ++ i) ++ ") \x7b").toList) := by
    simp [implementationHead, String.append_assoc]
  rw [hhead, ← hnumbers]
  exact Text.numbersBetween_append_of_not_mem (by decide)

/-- The traits that programs implement for tuples. -/
def tupleTraits : List String := ["ReadValue", "WriteValue"]

/-- The first line of an implementation tells the trait and the size. -/
theorem implementationHead_eq_iff {trait trait' : String} (htrait : trait ∈ tupleTraits)
    (htrait' : trait' ∈ tupleTraits) {size size' : Nat} :
    implementationHead trait size = implementationHead trait' size' ↔
      trait = trait' ∧ size = size' := by
  constructor
  · intro h
    have hsame : trait = trait' := by
      by_contra hne
      -- of the two traits each has a letter that the other one has not
      obtain ⟨c, hc, hc', hdigit, hfixed⟩ : ∃ c, c ∈ trait'.toList ∧ c ∉ trait.toList ∧
          c.isDigit = false ∧ c ∉ "impl<T: , > for () \x7b".toList := by
        simp only [tupleTraits, List.mem_cons, List.not_mem_nil, or_false] at htrait htrait'
        rcases htrait with rfl | rfl <;> rcases htrait' with rfl | rfl
        · exact absurd rfl hne
        · exact ⟨'W', by decide⟩
        · exact ⟨'R', by decide⟩
        · exact absurd rfl hne
      apply not_mem_implementationHead hdigit hc' hfixed size
      rw [h]
      simp [implementationHead, hc]
    subst hsame
    have hletters : 'T' ∉ trait.toList ∧ ':' ∉ trait.toList := by
      revert trait
      simp [tupleTraits]
    have hnumbers := numbersBetween_implementationHead hletters.1 hletters.2 size
    rw [h, numbersBetween_implementationHead hletters.1 hletters.2] at hnumbers
    have hlength := congrArg List.length hnumbers
    rw [List.length_range, List.length_range] at hlength
    exact ⟨rfl, hlength.symm⟩
  · rintro ⟨rfl, rfl⟩
    rfl

/-- The lines that begin the implementations for tuples of one size. -/
def implementationHeads (size : Nat) : Code :=
  tupleTraits.map (implementationHead · size)

/-- Where sizes are different, each line that begins an implementation is there once. -/
theorem count_implementationHead {sizes : List Nat} (hnodup : sizes.Nodup) {trait : String}
    (htrait : trait ∈ tupleTraits) (size : Nat) :
    (sizes.flatMap implementationHeads).count (implementationHead trait size) =
      if size ∈ sizes then 1 else 0 := by
  have hheads : ∀ other, (implementationHeads other).count (implementationHead trait size) =
      [other].count size := by
    intro other
    have hread : implementationHead "ReadValue" other = implementationHead trait size ↔
        "ReadValue" = trait ∧ other = size := implementationHead_eq_iff (by decide) htrait
    have hwrite : implementationHead "WriteValue" other = implementationHead trait size ↔
        "WriteValue" = trait ∧ other = size := implementationHead_eq_iff (by decide) htrait
    simp only [implementationHeads, tupleTraits, List.map_cons, List.map_nil, List.count_cons,
      List.count_nil, beq_iff_eq, hread, hwrite]
    simp only [tupleTraits, List.mem_cons, List.not_mem_nil, or_false] at htrait
    rcases htrait with rfl | rfl <;> simp
  rw [← hnodup.count]
  induction sizes with
  | nil => rfl
  | cons first sizes ih =>
    rw [List.flatMap_cons, List.count_append, hheads, ih (List.nodup_cons.mp hnodup).2,
      ← List.count_append, List.singleton_append]

/-! ## Lines that begin nothing -/

theorem beginsImplementation_of_head? {line : String} {c : Char}
    (hhead : line.toList.head? = some c) (hblank : Text.isBlank c = false) (hc : c ≠ 'i') :
    beginsImplementation line = false := by
  obtain ⟨rest, hline⟩ := List.head?_eq_some_iff.mp hhead
  have hne : ('i' == c) = false := beq_eq_false_iff_ne.mpr hc.symm
  rw [beginsImplementation, hline, Text.trimLeft,
    List.dropWhile_cons_of_neg (Bool.eq_false_iff.mp hblank)]
  simp [List.isPrefixOf, hne]

/-- Blanks in front of a line make no difference. -/
theorem beginsImplementation_indented (line : String) :
    beginsImplementation ("    " ++ line) = beginsImplementation line := by
  have hblank : Text.isBlank ' ' = true := by decide
  rw [beginsImplementation, String.toList_append, Text.trimLeft,
    List.dropWhile_append_of_pos (by simp [hblank])]
  rfl

/-- No line of the code begins an implementation. -/
def ImplementsNothing (code : Code) : Prop :=
  ∀ line ∈ code, beginsImplementation line = false

instance (code : Code) : Decidable (ImplementsNothing code) := by
  unfold ImplementsNothing
  infer_instance

theorem ImplementsNothing.singleton {line : String} {c : Char}
    (hhead : line.toList.head? = some c) (hblank : Text.isBlank c = false) (hc : c ≠ 'i') :
    ImplementsNothing [line] :=
  List.forall_mem_singleton.mpr (beginsImplementation_of_head? hhead hblank hc)

theorem ImplementsNothing.append {code code' : Code} (h : ImplementsNothing code)
    (h' : ImplementsNothing code') : ImplementsNothing (code ++ code') :=
  List.forall_mem_append.mpr ⟨h, h'⟩

theorem ImplementsNothing.indented {code : Code} (h : ImplementsNothing code) :
    ImplementsNothing (indented code) := by
  intro line hline
  obtain ⟨inner, hinner, rfl⟩ := List.mem_map.mp hline
  split
  · exact h inner hinner
  · rw [beginsImplementation_indented]
    exact h inner hinner

theorem ImplementsNothing.block {header : String} {body : Code}
    (hheader : ∀ rest, beginsImplementation (header ++ rest) = false)
    (hbody : ImplementsNothing body) : ImplementsNothing (block header body) := by
  have hfirst : ImplementsNothing [header ++ " \x7b"] := by
    simp [ImplementsNothing, hheader]
  exact (hfirst.append hbody.indented).append (by decide)

theorem ImplementsNothing.filter_eq_nil {code : Code} (h : ImplementsNothing code) :
    code.filter implementsForTuples = [] := by
  rw [List.filter_eq_nil_iff]
  intro line hline
  rw [implementsForTuples, h line hline, Bool.false_and]
  exact Bool.false_ne_true

/-! ## First lines -/

/-- The first line of an implementation begins it. -/
theorem implementsForTuples_implementationHead (trait : String) (size : Nat) :
    implementsForTuples (implementationHead trait size) = true := by
  have hbegins : beginsImplementation (implementationHead trait size) = true := by
    simp [beginsImplementation, implementationHead, Text.trimLeft, Text.isBlank, List.isPrefixOf]
  rw [implementsForTuples, hbegins, Bool.true_and, Text.occurs_iff]
  refine ⟨("impl<" ++ components size (fun i => "T" ++ i ++ ": " ++ trait) ++ "> " ++ trait).toList,
    (components size (fun i => "T" ++ i) ++ ") \x7b").toList, ?_⟩
  simp [implementationHead, String.append_assoc]

/-- An implementation is begun once, in its first line. -/
theorem filter_tupleImplementation (trait : String) (size : Nat) {method : Code}
    (h : ImplementsNothing method) :
    (tupleImplementation trait size method).filter implementsForTuples =
      [implementationHead trait size] := by
  obtain ⟨header, hheader, hblock⟩ : ∃ header, header ++ " \x7b" = implementationHead trait size ∧
      tupleImplementation trait size method = block header method :=
    ⟨_, by simp [implementationHead, String.append_assoc], rfl⟩
  have hrest : ImplementsNothing (indented method ++ ["\x7d" ++ ""]) :=
    h.indented.append (by decide)
  rw [hblock, block, blockEnding, hheader, List.append_assoc, List.filter_append,
    hrest.filter_eq_nil, List.append_nil,
    List.filter_cons_of_pos (implementsForTuples_implementationHead trait size), List.filter_nil]

/-- Of the implementations for tuples of one size, the first lines begin implementations. -/
theorem filter_tupleCode (size : Nat) :
    (tupleCode size).filter implementsForTuples = implementationHeads size := by
  have hread : ImplementsNothing (block readHead ["(" ++ componentReads size ++ ")"]) := by
    refine .block (fun rest => ?_) (.singleton (c := '(') (by simp) (by decide) (by decide))
    exact beginsImplementation_of_head? (c := 'f') (by simp [readHead]) (by decide) (by decide)
  have hwrite :
      ImplementsNothing (block writeHead ["[" ++ componentWrites size ++ "].join(\" \")"]) := by
    refine .block (fun rest => ?_) (.singleton (c := '[') (by simp) (by decide) (by decide))
    exact beginsImplementation_of_head? (c := 'f') (by simp [writeHead]) (by decide) (by decide)
  have hcode : tupleCode size = spaced [
      tupleImplementation "ReadValue" size (block readHead ["(" ++ componentReads size ++ ")"]),
      tupleImplementation "WriteValue" size
        (block writeHead ["[" ++ componentWrites size ++ "].join(\" \")"])] := rfl
  rw [hcode, filter_spaced (by decide), List.flatMap_cons, List.flatMap_cons, List.flatMap_nil,
    filter_tupleImplementation _ _ hread, filter_tupleImplementation _ _ hwrite]
  rfl

end StarterCode.Rust
