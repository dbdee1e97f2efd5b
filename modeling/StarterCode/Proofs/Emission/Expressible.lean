import StarterCode.Emission
import StarterCode.Proofs.Emission.Code
import StarterCode.Proofs.Emission.Header

/-!
# Which problems a language can express

Starter code is written for any problem whatever, with names that need not be identifiers and types
that no expression denotes. What stands in the way is names and custom types alone: the names of
function, parameters and returned value as the language writes them, which have to be different and
free, and types whose names no language here knows.

A header exists exactly then (`Dialect.exists_header_iff`). The rest is about the three languages:
how each writes a name, that none of them spells a custom type, and where the names of the header
are found in the text, in the line that begins the function and in the one that calls it.
-/

set_option autoImplicit false

namespace StarterCode

/-- The names of function, parameters and returned value, each written in some way. -/
def Problem.namesBy (rename : String → String) (problem : Problem) : List String :=
  rename problem.functionName ::
    (problem.parameters.map (rename ·.name) ++ [rename problem.outputName])

namespace Dialect

variable {dialect : Dialect} {problem : Problem}

theorem names_of_writes {parameters : List Parameter} {made : List Variable}
    (h : List.Forall₂ dialect.Writes parameters made) :
    made.map (·.name) = parameters.map (dialect.rename ·.name) := by
  induction h with
  | nil => rfl
  | cons hfirst _ ih => rw [List.map_cons, List.map_cons, hfirst.name_eq, ih]

/-- The names of a header are those of its problem as the dialect writes them. -/
theorem Heads.names_eq {header : Header} (h : dialect.Heads problem header) :
    header.names = problem.namesBy dialect.rename := by
  rw [Header.names, Problem.namesBy, h.functionName_eq, h.outputName_eq,
    names_of_writes h.parameters]

/-- Parameters whose types are spelled can be written. -/
theorem exists_writes {parameters : List Parameter}
    (h : ∀ parameter ∈ parameters, (dialect.spelling.spell? parameter.type).isSome = true) :
    ∃ made, List.Forall₂ dialect.Writes parameters made := by
  refine ⟨parameters.map fun parameter =>
    ⟨dialect.rename parameter.name, (dialect.spelling.spell? parameter.type).getD ""⟩, ?_⟩
  apply List.forall₂_map_right_iff.mpr
  apply List.forall₂_same.mpr
  intro parameter hparameter
  obtain ⟨type, htype⟩ := Option.isSome_iff_exists.mp (h parameter hparameter)
  exact ⟨rfl, by rw [htype, Option.getD_some]⟩

/-- A problem has a header when its names are different and free and its types are spelled. -/
theorem exists_header_iff :
    (∃ header, dialect.header problem = .ok header) ↔
      (problem.namesBy dialect.rename).Nodup ∧
      (∀ name ∈ problem.namesBy dialect.rename, name ∉ dialect.reserved) ∧
      ∀ type ∈ problem.types, (dialect.spelling.spell? type).isSome = true := by
  constructor
  · rintro ⟨header, hheader⟩
    have hheads := heads_of_header hheader
    rw [← hheads.names_eq]
    refine ⟨hheads.nodup, hheads.not_reserved, ?_⟩
    intro type htype
    rcases List.mem_append.mp htype with hparameter | hreturn
    · obtain ⟨parameter, hmem, rfl⟩ := List.mem_map.mp hparameter
      exact hheads.isSome_spell? parameter hmem
    · rw [List.mem_singleton.mp hreturn, hheads.spell?_eq]
      rfl
  · rintro ⟨hnodup, hreserved, hspelled⟩
    -- with every type spelled there are the parts of a header, and its names are known
    obtain ⟨made, hwrites⟩ : ∃ made, List.Forall₂ dialect.Writes problem.parameters made := by
      apply exists_writes
      intro parameter hparameter
      exact hspelled _ (List.mem_append_left _ (List.mem_map_of_mem hparameter))
    obtain ⟨returnType, hreturn⟩ := Option.isSome_iff_exists.mp
      (hspelled problem.returnType (List.mem_append_right _ (List.mem_singleton_self _)))
    let header : Header := ⟨dialect.rename problem.functionName, made, returnType,
      dialect.rename problem.outputName⟩
    have hnames : header.names = problem.namesBy dialect.rename := by
      rw [Header.names, Problem.namesBy, names_of_writes hwrites]
    refine ⟨header, header_eq_ok_iff.mpr ⟨rfl, hwrites, hreturn, rfl, ?_, ?_⟩⟩
    · rw [hnames]
      exact hreserved
    · rw [hnames]
      exact hnodup

end Dialect

/-- A table without custom names spells the types in which no custom name occurs. -/
theorem Spelling.forall_isSome_spell?_iff {spelling : Spelling} (h : spelling.custom = [])
    {types : List ValueType} :
    (∀ type ∈ types, (spelling.spell? type).isSome = true) ↔
      ∀ name, .custom name ∉ types.flatMap ValueType.walk := by
  constructor
  · intro hspelled name hname
    obtain ⟨type, htype, hwalk⟩ := List.mem_flatMap.mp hname
    have hknown := (isSome_spell? spelling type).mp (hspelled type htype) name hwalk
    rw [h] at hknown
    cases hknown
  · intro hnone type htype
    apply (isSome_spell? spelling type).mpr
    intro name hname
    exact absurd (List.mem_flatMap.mpr ⟨type, htype, hname⟩) (hnone name)

namespace Language

/-- A name as the language writes it: in snake case, or as it is. -/
def written : Language → String → String
  | .cpp, name => name
  | .javaScript, name => name
  | .rust, name => String.ofList (Text.snakeCase name.toList)

theorem rename_dialect (language : Language) : language.dialect.rename = language.written := by
  cases language <;> rfl

theorem language_dialect (language : Language) : language.dialect.spelling.language = language := by
  cases language <;> rfl

/-- No language knows a custom name. -/
theorem custom_dialect (language : Language) : language.dialect.spelling.custom = [] := by
  cases language <;> rfl

theorem exists_header_iff {language : Language} {problem : Problem} :
    (∃ header, language.dialect.header problem = .ok header) ↔
      (problem.namesBy language.written).Nodup ∧
      (∀ name ∈ problem.namesBy language.written, name ∉ language.dialect.reserved) ∧
      ∀ name, .custom name ∉ problem.nestedTypes := by
  rw [Dialect.exists_header_iff, Spelling.forall_isSome_spell?_iff language.custom_dialect,
    rename_dialect]
  rfl

/-! ## The names in the text -/

/-- The line that begins the function, with the name of the function and those of the parameters. -/
def definitionLine (language : Language) (problem : Problem) (header : Header) : String :=
  match language with
  | .cpp =>
    let parameters := problem.parameters.zipWith (Cpp.parameterText ·.type) header.parameters
    header.returnType ++ " " ++ header.functionName ++ "(" ++ ", ".intercalate parameters ++
      ")" ++ " \x7b"
  | .javaScript => "function " ++ header.functionName ++ "(" ++ header.arguments ++ ")" ++ " \x7b"
  | .rust =>
    let parameters := header.parameters.map fun written => written.name ++ ": " ++ written.type
    "pub fn " ++ header.functionName ++ "(" ++ ", ".intercalate parameters ++ ") -> " ++
      header.returnType ++ " \x7b"

/-- The line of `main` that calls the function, with all names. -/
def callingLine : Language → Header → String
  | .cpp => Cpp.callLine
  | .javaScript => JavaScript.callLine
  | .rust => Rust.callLine

theorem definitionLine_mem_stubCode (language : Language) (problem : Problem) (header : Header) :
    language.definitionLine problem header ∈ language.stubCode problem header := by
  cases language with
  | cpp | javaScript | rust =>
    exact List.mem_append_right _ ((Code.prefix_block _ _).subset (List.mem_singleton_self _))

theorem callingLine_ne_empty (language : Language) (header : Header) :
    language.callingLine header ≠ "" := by
  cases language <;> simp [callingLine, Cpp.callLine, JavaScript.callLine, Rust.callLine]

/-- A program has the line that begins the function and, in `main`, the one that calls it. -/
theorem mem_programCode {language : Language} {laidOut : LaidOutProblem} {header : Header}
    {code : Code} (h : language.programCode laidOut header = .ok code) :
    language.definitionLine laidOut.problem header ∈ code ∧
      "    " ++ language.callingLine header ∈ code := by
  have hdefinition := definitionLine_mem_stubCode language laidOut.problem header
  have hdefined : language.definitionLine laidOut.problem header ≠ "" := by
    cases language <;> simp [definitionLine]
  have hcalled : "    " ++ language.callingLine header ≠ "" := by simp
  have hcall := language.callingLine_ne_empty header
  -- each line is in a piece of the program, the second one in its last piece
  cases language with
  | cpp =>
    cases h
    have hfunction : cpp.definitionLine laidOut.problem header ∈
        Cpp.function laidOut.problem header :=
      (Code.prefix_block _ _).subset (List.mem_singleton_self _)
    have hmain : "    " ++ Cpp.callLine header ∈ Cpp.mainFunction laidOut header :=
      Code.mem_block_of_mem hcall (by simp)
    exact ⟨List.mem_append_right _ ((Code.mem_spaced hdefined).mpr ⟨_, by simp, hfunction⟩),
      List.mem_append_right _ ((Code.mem_spaced hcalled).mpr ⟨_, by simp, hmain⟩)⟩
  | javaScript =>
    obtain ⟨reading, -, hcode⟩ := bind_eq_ok.mp h
    cases hcode
    have hmain : "    " ++ JavaScript.callLine header ∈
        JavaScript.mainFunction laidOut header reading :=
      Code.mem_block_of_mem hcall (by simp)
    exact ⟨(Code.mem_spaced hdefined).mpr ⟨JavaScript.stub _ _, by simp, hdefinition⟩,
      (Code.mem_spaced hcalled).mpr ⟨_, by simp, hmain⟩⟩
  | rust =>
    cases h
    have hmain : "    " ++ Rust.callLine header ∈ Rust.mainFunction laidOut header :=
      Code.mem_block_of_mem hcall (by simp)
    exact ⟨(Code.mem_spaced hdefined).mpr ⟨Rust.stub _ _, by simp, hdefinition⟩,
      (Code.mem_spaced hcalled).mpr ⟨_, by simp, hmain⟩⟩

end Language

/-- **What a language can express.** A stub is written exactly when the names of function,
parameters and returned value are all different as the language writes them, none of them is
reserved, and no custom type occurs at any depth. So the names in every stub and in every program
are different and free. In the text they are found in the line that begins the function, and in a
program also in the line that calls it. -/
theorem exists_emit_iff (problem : Problem) (language : Language) :
    ((∃ code, problem.emit language = .ok code) ↔
      (problem.namesBy language.written).Nodup ∧
      (∀ name ∈ problem.namesBy language.written, name ∉ language.dialect.reserved) ∧
      ∀ name, .custom name ∉ problem.nestedTypes) ∧
    (∀ code, problem.emit language = .ok code → ∃ header,
      code = language.stubCode problem header ∧
      (language.definitionLine problem header).toList <:+: code.text.toList ∧
      header.names = problem.namesBy language.written ∧ header.names.Nodup ∧
      ∀ name ∈ header.names, name ∉ language.dialect.reserved) ∧
    ∀ laidOut code, laidOut.problem = problem → laidOut.emit language = .ok code → ∃ header,
      language.programCode laidOut header = .ok code ∧
      (language.definitionLine problem header).toList <:+: code.text.toList ∧
      (language.callingLine header).toList <:+: code.text.toList ∧
      header.names = problem.namesBy language.written ∧ header.names.Nodup ∧
      ∀ name ∈ header.names, name ∉ language.dialect.reserved := by
  -- what is known of a header holds of the code that is written under it
  have hheader : ∀ header, language.dialect.header problem = .ok header →
      header.names = problem.namesBy language.written ∧ header.names.Nodup ∧
      ∀ name ∈ header.names, name ∉ language.dialect.reserved := by
    intro header h
    have hheads := Dialect.heads_of_header h
    rw [← Language.rename_dialect]
    exact ⟨hheads.names_eq, hheads.nodup, hheads.not_reserved⟩
  refine ⟨?_, ?_, ?_⟩
  · rw [← Language.exists_header_iff]
    constructor
    · rintro ⟨code, hcode⟩
      obtain ⟨header, h, -⟩ := bind_eq_ok.mp hcode
      exact ⟨header, h⟩
    · rintro ⟨header, h⟩
      exact ⟨language.stubCode problem header, bind_eq_ok.mpr ⟨header, h, rfl⟩⟩
  · intro code hcode
    obtain ⟨header, h, hstub⟩ := bind_eq_ok.mp hcode
    cases hstub
    have hdefinition := language.definitionLine_mem_stubCode problem header
    exact ⟨header, rfl, Code.infix_text_of_mem hdefinition, hheader header h⟩
  · rintro laidOut code rfl hcode
    obtain ⟨header, h, hprogram⟩ := bind_eq_ok.mp hcode
    obtain ⟨hdefinition, hcall⟩ := Language.mem_programCode hprogram
    have hmoved := Code.infix_text_of_mem hcall
    rw [String.toList_append] at hmoved
    exact ⟨header, hprogram, Code.infix_text_of_mem hdefinition,
      (List.suffix_append _ _).isInfix.trans hmoved, hheader header h⟩

/-- A problem with two names that are the same in snake case. -/
def clashingProblem : Problem where
  name := "C"
  functionName := "run"
  parameters := [⟨"maxDepth", .integer, 0⟩, ⟨"max_depth", .array (.tuple []), 7⟩]
  returnType := .string
  outputName := "Mut"

theorem exists_emit_iff_clashing :
    (∃ code, clashingProblem.emit .cpp = .ok code) ∧
      (∃ code, clashingProblem.emit .javaScript = .ok code) ∧
      ¬ ∃ code, clashingProblem.emit .rust = .ok code := by
  have hcustom : ∀ name, .custom name ∉ clashingProblem.nestedTypes := by
    intro name hname
    simp [clashingProblem, Problem.nestedTypes, Problem.types, ValueType.walk,
      ValueType.walkAll] at hname
  refine ⟨?_, ?_, ?_⟩
  · exact (exists_emit_iff clashingProblem .cpp).1.mpr ⟨by decide, by decide, hcustom⟩
  · exact (exists_emit_iff clashingProblem .javaScript).1.mpr ⟨by decide, by decide, hcustom⟩
  · intro h
    have hnodup := ((exists_emit_iff clashingProblem .rust).1.mp h).1
    exact absurd hnodup (by decide)

end StarterCode
