import StarterCode.Proofs.Emission.Agreement
import StarterCode.Proofs.Emission.Comment
import StarterCode.Proofs.Emission.TupleCode
import StarterCode.Proofs.Emission.Unambiguous

/-!
# Implementations for tuples

A program in Rust implements its two traits for tuples of each size that occurs in its types, at any
depth, and for no other size. The sizes are found by a walk through the types, which meets every
type that is nested in another one (`ValueType.mem_walk_iff`). They are sorted, each is there once,
and `Rust.mem_arities` says which they are.

Nothing else in a program begins an implementation for tuples (`Rust.filter_program`). Lines with
names or types of the problem in them begin with other words, whatever the names are, and the rest
is fixed text. Since no name and no type has a line end in it, the lines of the text are those of
the code.
-/

set_option autoImplicit false

namespace StarterCode

/-! ## Types within types -/

namespace ValueType

/-- One type is another one or is nested in it, at any depth. -/
inductive Within : ValueType → ValueType → Prop where
  /-- A type is within itself. -/
  | refl (type : ValueType) : Within type type
  /-- What is within the element is within the array. -/
  | element {inner element : ValueType} : Within inner element → Within inner (.array element)
  /-- What is within a component is within the tuple. -/
  | component {inner component : ValueType} {components : List ValueType} :
      component ∈ components → Within inner component → Within inner (.tuple components)

/-- The walk meets all types that are within a type, and no others. -/
theorem mem_walk_iff {inner type : ValueType} : inner ∈ type.walk ↔ Within inner type := by
  constructor
  · intro h
    induction type using nested_induction with
    | scalar type hscalar =>
      rw [walk_of_isScalar hscalar, List.mem_singleton] at h
      exact h ▸ .refl _
    | array element ih =>
      rw [walk, List.mem_cons] at h
      rcases h with rfl | h
      · exact .refl _
      · exact .element (ih h)
    | tuple components ih =>
      rw [walk, List.mem_cons] at h
      rcases h with rfl | h
      · exact .refl _
      · obtain ⟨component, hcomponent, h⟩ := mem_walkAll.mp h
        exact .component hcomponent (ih component hcomponent h)
    | custom name =>
      obtain rfl := List.mem_singleton.mp h
      exact .refl _
  · intro h
    induction h with
    | refl => exact mem_walk_self _
    | element _ ih => exact List.mem_cons_of_mem _ ih
    | component hcomponent _ ih =>
      exact List.mem_cons_of_mem _ (mem_walkAll.mpr ⟨_, hcomponent, ih⟩)

end ValueType

/-- A tuple of this size occurs in the types of the problem, at any depth. -/
def Problem.HasTuple (problem : Problem) (size : Nat) : Prop :=
  ∃ type ∈ problem.types, ∃ components : List ValueType,
    components.length = size ∧ ValueType.Within (.tuple components) type

namespace Rust

open Code

/-! ## Sizes -/

theorem le_foldr_max {numbers : List Nat} {number : Nat} (h : number ∈ numbers) :
    number ≤ numbers.foldr max 0 := by
  induction numbers with
  | nil => cases h
  | cons first numbers ih =>
    rw [List.foldr_cons]
    rcases List.mem_cons.mp h with rfl | h
    · exact Nat.le_max_left _ _
    · exact Nat.le_trans (ih h) (Nat.le_max_right _ _)

theorem mem_arities {problem : Problem} {size : Nat} :
    size ∈ arities problem ↔ problem.HasTuple size := by
  have hfound : size ∈ problem.nestedTypes.filterMap arity? ↔ problem.HasTuple size := by
    rw [List.mem_filterMap]
    constructor
    · rintro ⟨inner, hinner, hsize⟩
      obtain ⟨type, htype, hwalk⟩ := List.mem_flatMap.mp hinner
      cases inner with
      | tuple components =>
        exact ⟨type, htype, components, Option.some.inj hsize, ValueType.mem_walk_iff.mp hwalk⟩
      | _ => cases hsize
    · rintro ⟨type, htype, components, rfl, hwithin⟩
      exact ⟨_, List.mem_flatMap.mpr ⟨type, htype, ValueType.mem_walk_iff.mpr hwithin⟩, rfl⟩
  rw [arities, List.mem_filter, List.contains_iff_mem, hfound, List.mem_range]
  refine and_iff_right_of_imp fun h => ?_
  have hle := le_foldr_max (hfound.mpr h)
  omega

/-- The sizes are in ascending order, and none is there twice. -/
theorem pairwise_arities (problem : Problem) : (arities problem).Pairwise (· < ·) :=
  List.pairwise_lt_range.sublist List.filter_sublist

/-! ## The lines of a program -/

theorem implementsNothing_stub (problem : Problem) (header : Header) :
    ImplementsNothing (stub problem header) := by
  have hcomment : ImplementsNothing ["/// " ++ commentText problem.name] :=
    .singleton (c := '/') (by simp) (by decide) (by decide)
  refine hcomment.append (.block ?_ (by decide))
  intro rest
  exact beginsImplementation_of_head? (c := 'p') (by simp) (by decide) (by decide)

theorem implementsNothing_mainFunction (laidOut : LaidOutProblem) (header : Header) :
    ImplementsNothing (mainFunction laidOut header) := by
  have hbinds : ∀ rest : String, beginsImplementation ("let " ++ rest) = false := fun rest =>
    beginsImplementation_of_head? (c := 'l') (by simp) (by decide) (by decide)
  have hreading : ImplementsNothing ((readings laidOut header).map readingLine) := by
    intro line hline
    obtain ⟨reading, -, rfl⟩ := List.mem_map.mp hline
    simp only [readingLine, String.append_assoc, hbinds]
  have hcall : ImplementsNothing ["", callLine header] := by
    intro line hline
    simp only [List.mem_cons, List.not_mem_nil, or_false] at hline
    rcases hline with rfl | rfl
    · decide
    · simp only [callLine, String.append_assoc, hbinds]
  have hwriting : ImplementsNothing (writingLines header laidOut.outputLayout) := by
    cases laidOut.outputLayout with
    | line => exact .singleton (c := 'p') (by simp) (by decide) (by decide)
    | lines =>
      refine .block ?_ (by decide)
      intro rest
      exact beginsImplementation_of_head? (c := 'f') (by simp) (by decide) (by decide)
  refine .block (fun rest => ?_) ?_
  · exact beginsImplementation_of_head? (c := 'f') (by simp) (by decide) (by decide)
  · exact ((ImplementsNothing.append (by decide) hreading).append hcall).append hwriting

/-- The pieces of programs that do not depend on the problem. -/
def fixedPieces : List Code := [
  ["use std::io::" ++ braced "self, Read" ++ ";"], tokenReader, readHelpers, readLineHelper,
  writeHelpers]

/-- No line of a fixed piece is about tuples. -/
theorem filter_fixedPiece (piece : Code) (h : piece ∈ fixedPieces) :
    piece.filter implementsForTuples = [] := by
  have hbytes : ∀ piece ∈ fixedPieces, ∀ line ∈ piece,
      ¬ " for (".toByteArray.data.toList <:+: line.toByteArray.data.toList := by
    decide +kernel
  rw [List.filter_eq_nil_iff]
  intro line hline himplements
  rw [implementsForTuples, Bool.and_eq_true, Text.occurs_iff] at himplements
  exact not_infix_of_not_infix_bytes (hbytes piece h line hline) himplements.2

/-- Of all lines of a program, those of the implementations for tuples of the sizes that occur. -/
theorem filter_program (laidOut : LaidOutProblem) (header : Header) :
    (program laidOut header).filter implementsForTuples =
      (arities laidOut.problem).flatMap implementationHeads := by
  have huse := filter_fixedPiece ["use std::io::" ++ braced "self, Read" ++ ";"]
    (by simp [fixedPieces])
  have htoken := filter_fixedPiece tokenReader (by simp [fixedPieces])
  have hread := filter_fixedPiece readHelpers (by simp [fixedPieces])
  have hwrite := filter_fixedPiece writeHelpers (by simp [fixedPieces])
  have hline : (if readsLines laidOut then [readLineHelper] else []).flatMap
      (List.filter implementsForTuples) = [] := by
    split
    · rw [List.flatMap_singleton, filter_fixedPiece _ (by simp [fixedPieces])]
    · rfl
  have htuples : ((arities laidOut.problem).map tupleCode).flatMap
      (List.filter implementsForTuples) =
        (arities laidOut.problem).flatMap implementationHeads := by
    rw [List.flatMap_map]
    exact List.flatMap_congr fun size _ => filter_tupleCode size
  have hstub := (implementsNothing_stub laidOut.problem header).filter_eq_nil
  have hmain := (implementsNothing_mainFunction laidOut header).filter_eq_nil
  rw [program, filter_spaced (by decide)]
  simp only [List.flatMap_append, List.flatMap_cons, List.flatMap_nil, huse, hstub, htoken, hread,
    hline, hwrite, htuples, hmain, List.nil_append, List.append_nil]

/-! ## Line ends -/

section LineEnds

variable {c : Char} {header : Header}

theorem lacks_stub (hc : c = '\n' ∨ c = '\r') (h : header.Lacks c) (problem : Problem) :
    Lacks c (stub problem header) := by
  have hcomment : Lacks c ["/// " ++ commentText problem.name] := by
    have hname := not_mem_commentText hc problem.name
    rcases hc with rfl | rfl <;> simp [Lacks, hname]
  have hparameters : c ∉ (", ".intercalate (header.parameters.map fun written =>
      written.name ++ ": " ++ written.type)).toList := by
    apply not_mem_toList_intercalate
    · rcases hc with rfl | rfl <;> decide
    · intro text htext
      obtain ⟨written, hwritten, rfl⟩ := List.mem_map.mp htext
      have hname := h.parameterName hwritten
      have htype := h.types written hwritten
      rcases hc with rfl | rfl <;> simp [hname, htype]
  have hhead : ∀ parameters : String, c ∉ parameters.toList →
      c ∉ ("pub fn " ++ header.functionName ++ "(" ++ parameters ++ ") -> " ++
        header.returnType).toList := by
    intro parameters hparameters
    rcases hc with rfl | rfl <;> simp [h.functionName, h.returnType, hparameters]
  have hbody : Lacks c [placeholder, "todo!()"] := by
    rcases hc with rfl | rfl <;> decide
  exact lacks_append.mpr ⟨hcomment, .block_of_lineEnd hc (hhead _ hparameters) hbody⟩

theorem lacks_mainFunction (hc : c = '\n' ∨ c = '\r') (h : header.Lacks c)
    (laidOut : LaidOutProblem) : Lacks c (mainFunction laidOut header) := by
  have hreading : Lacks c ((readings laidOut header).map readingLine) := by
    intro line hline
    obtain ⟨⟨input, written⟩, hmem, rfl⟩ := List.mem_map.mp hline
    have hwritten : written ∈ header.parameters := (List.of_mem_zip hmem).2
    have hname := h.parameterName hwritten
    have htype := h.types written hwritten
    have hreader : c ∉ (readerFor input.layout).toList := by
      rcases hc with rfl | rfl <;> cases input.layout <;> decide
    rcases hc with rfl | rfl <;> simp [readingLine, hname, htype, hreader]
  have hcall : Lacks c ["", callLine header] := by
    have harguments := h.arguments (by rcases hc with rfl | rfl <;> decide)
    rcases hc with rfl | rfl <;>
      simp [Lacks, callLine, h.outputName, h.returnType, h.functionName, harguments]
  have hwriting : Lacks c (writingLines header laidOut.outputLayout) := by
    have houtput := h.outputName
    cases laidOut.outputLayout with
    | line => rcases hc with rfl | rfl <;> simp [Lacks, writingLines, braced, houtput]
    | lines =>
      apply Lacks.block_of_lineEnd hc
      · rcases hc with rfl | rfl <;> simp [houtput]
      · rcases hc with rfl | rfl <;> decide
  have hinput : Lacks c ["let mut input = String::new();",
      "io::stdin().read_to_string(&mut input).expect(\"failed to read stdin\");",
      "let mut reader = TokenReader::new(&input);", ""] := by
    rcases hc with rfl | rfl <;> decide
  have hbody := lacks_append.mpr ⟨lacks_append.mpr ⟨lacks_append.mpr ⟨hinput, hreading⟩, hcall⟩,
    hwriting⟩
  exact .block_of_lineEnd hc (by rcases hc with rfl | rfl <;> decide) hbody

theorem lacks_tupleCode (hc : c = '\n' ∨ c = '\r') (size : Nat) : Lacks c (tupleCode size) := by
  have hdigit : c.isDigit = false := by
    rcases hc with rfl | rfl <;> decide
  have hseparator : c ∉ ", ".toList := by
    rcases hc with rfl | rfl <;> decide
  have hhead : ∀ trait, c ∉ trait.toList → c ∉ (implementationHead trait size).toList := by
    intro trait htrait
    refine not_mem_implementationHead hdigit htrait ?_ size
    rcases hc with rfl | rfl <;> decide
  have hread := hhead "ReadValue" (by rcases hc with rfl | rfl <;> decide)
  have hwrite := hhead "WriteValue" (by rcases hc with rfl | rfl <;> decide)
  have hreads : c ∉ (componentReads size).toList := by
    refine not_mem_components hdigit hseparator (fun number hnumber => ?_) size
    rcases hc with rfl | rfl <;> simp [hnumber]
  have hwrites : c ∉ (componentWrites size).toList := by
    refine not_mem_components hdigit hseparator (fun number hnumber => ?_) size
    rcases hc with rfl | rfl <;> simp [hnumber]
  rw [tupleCode_eq]
  rcases hc with rfl | rfl <;>
    simp [Lacks, implementationPair, hread, hwrite, hreads, hwrites]

theorem lacks_fixedPieces (hc : c = '\n' ∨ c = '\r') : ∀ piece ∈ fixedPieces, Lacks c piece := by
  rcases hc with rfl | rfl
  all_goals exact lacks_of_not_mem_bytes (by decide) (by decide +kernel)

theorem lacks_program (hc : c = '\n' ∨ c = '\r') (h : header.Lacks c)
    (laidOut : LaidOutProblem) : Lacks c (program laidOut header) := by
  have hfixed := lacks_fixedPieces hc
  apply Lacks.spaced
  intro piece hpiece
  simp only [List.mem_append, List.mem_cons, List.mem_ite_nil_right, List.mem_map,
    List.not_mem_nil, or_false] at hpiece
  rcases hpiece with ((((rfl | rfl | rfl | rfl) | ⟨-, rfl⟩) | rfl) | ⟨size, -, rfl⟩) | rfl
  · exact hfixed _ (by simp [fixedPieces])
  · exact lacks_stub hc h laidOut.problem
  · exact hfixed _ (by simp [fixedPieces])
  · exact hfixed _ (by simp [fixedPieces])
  · exact hfixed _ (by simp [fixedPieces])
  · exact hfixed _ (by simp [fixedPieces])
  · exact lacks_tupleCode hc size
  · exact lacks_mainFunction hc h laidOut

/-- The lines of the text of a program are those of its code. -/
theorem lines_program {text : String} {laidOut : LaidOutProblem}
    (hlaidOut : LaidOutProblem.parse text = .ok laidOut)
    (hheads : dialect.Heads laidOut.problem header) :
    Text.lines (Code.text (program laidOut header)).toList =
      (program laidOut header).map String.toList := by
  have hproblem := (LaidOutProblem.fits_of_parse hlaidOut).1
  exact lines_text_of_lacks fun _ hc =>
    lacks_program hc (Language.lacks_lineEnd .rust hproblem hheads hc) laidOut

end LineEnds

/-! ## Tuples of the given sizes -/

/-- The code implements both traits for tuples of these sizes and for no others, in this order. -/
structure ImplementsTuples (sizes : List Nat) (code : Code) : Prop where
  /-- The lines that begin implementations for tuples. -/
  filter_eq : code.filter implementsForTuples = sizes.flatMap implementationHeads
  /-- Each implementation is begun once, and those for other sizes are not begun. -/
  count_eq : ∀ trait ∈ tupleTraits, ∀ size,
    code.count (implementationHead trait size) = if size ∈ sizes then 1 else 0
  /-- Both implementations for a size stand together, and in each the components are taken one after
  the other. -/
  exists_pair : ∀ size ∈ sizes, ∃ reads writes,
    implementationPair size reads writes <:+: code ∧
    Text.numbersBetween "T".toList "::read_value(reader)".toList reads.toList = List.range size ∧
    Text.numbersBetween "self.".toList ".write_value()".toList writes.toList = List.range size

theorem implementsTuples_program (laidOut : LaidOutProblem) (header : Header) :
    ImplementsTuples (arities laidOut.problem) (program laidOut header) := by
  have hnodup : (arities laidOut.problem).Nodup :=
    (pairwise_arities laidOut.problem).imp fun hlt => Nat.ne_of_lt hlt
  refine ⟨filter_program laidOut header, ?_, ?_⟩
  · intro trait htrait size
    rw [← List.count_filter (implementsForTuples_implementationHead trait size), filter_program,
      count_implementationHead hnodup htrait]
  · intro size hsize
    refine ⟨componentReads size, componentWrites size, ?_, numbersBetween_componentReads size,
      numbersBetween_componentWrites size⟩
    rw [← tupleCode_eq]
    apply infix_spaced
    simp only [List.mem_append, List.mem_map]
    exact .inl (.inr ⟨size, hsize, rfl⟩)

end Rust

open Rust

/-- **Tuples are implemented as they are used.** For every document that gives a program in Rust,
the program has the implementations of both traits for tuples of a size once when a tuple of this
size occurs in the type of a parameter or in the return type, at any depth, and not at all
otherwise. They come in the order of the sizes, and those for a size read and write each of the
components once, from the first to the last. -/
theorem tuples_implemented_as_used {text : String} {laidOut : LaidOutProblem} {code : Code}
    (hlaidOut : LaidOutProblem.parse text = .ok laidOut) (hcode : laidOut.emit .rust = .ok code) :
    Text.lines code.text.toList = code.map String.toList ∧
    ∃ sizes : List Nat, sizes.Pairwise (· < ·) ∧
      (∀ size, size ∈ sizes ↔ laidOut.problem.HasTuple size) ∧ ImplementsTuples sizes code := by
  obtain ⟨header, hheader, hprogram⟩ := bind_eq_ok.mp hcode
  cases hprogram
  have hheads : Rust.dialect.Heads laidOut.problem header := Dialect.heads_of_header hheader
  exact ⟨lines_program hlaidOut hheads, arities laidOut.problem, pairwise_arities _,
    fun size => mem_arities, implementsTuples_program laidOut header⟩

/-- A document with pairs in an array, and with a triple that is returned. -/
def mixedDocument : String :=
  "Problem Name: \"Mixed\"\nFunction Name: mixed\n" ++
    "Input Field: pairs array of pair of int and string\n" ++
    "Output Field: tuple of int, int and int"

/-- The problem of that document. -/
def mixedProblem : LaidOutProblem where
  problem := ⟨"Mixed", "mixed", [⟨"pairs", .array (.pair .integer .string), 0⟩],
    .tuple [.integer, .integer, .integer], "result"⟩
  inputs := [⟨⟨"pairs", .array (.pair .integer .string), 0⟩, .counted⟩]
  outputLayout := .line

theorem tuples_implemented_as_used_mixed :
    LaidOutProblem.parse mixedDocument = .ok mixedProblem ∧
    ∃ code, mixedProblem.emit .rust = .ok code ∧
      code.count "impl<T0: ReadValue, T1: ReadValue> ReadValue for (T0, T1) \x7b" = 1 ∧
      code.count (implementationHead "WriteValue" 3) = 1 ∧
      code.count (implementationHead "ReadValue" 4) = 0 := by
  have hlaidOut : LaidOutProblem.parse mixedDocument = .ok mixedProblem :=
    eq_ok_of_toOption (by decide +kernel)
  have hheader : Rust.dialect.header mixedProblem.problem = .ok
      ⟨"mixed", [⟨"pairs", "Vec<(i32, String)>"⟩], "(i32, i32, i32)", "result"⟩ :=
    rfl
  have hcode : mixedProblem.emit .rust = .ok (program mixedProblem _) :=
    bind_eq_ok.mpr ⟨_, hheader, rfl⟩
  obtain ⟨-, sizes, -, hsizes, himplements⟩ := tuples_implemented_as_used hlaidOut hcode
  have htwo : 2 ∈ sizes := (hsizes 2).mpr (mem_arities.mp (by decide))
  have hthree : 3 ∈ sizes := (hsizes 3).mpr (mem_arities.mp (by decide))
  have hfour : 4 ∉ sizes := fun h => absurd (mem_arities.mpr ((hsizes 4).mp h)) (by decide)
  have hread := himplements.count_eq "ReadValue" (by decide) 2
  have hwrite := himplements.count_eq "WriteValue" (by decide) 3
  have hnone := himplements.count_eq "ReadValue" (by decide) 4
  rw [if_pos htwo] at hread
  rw [if_pos hthree] at hwrite
  rw [if_neg hfour] at hnone
  exact ⟨hlaidOut, _, hcode, hread, hwrite, hnone⟩

end StarterCode
