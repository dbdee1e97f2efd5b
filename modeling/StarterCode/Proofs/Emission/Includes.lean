import StarterCode.Proofs.Emission.Agreement
import StarterCode.Proofs.Emission.Comment
import StarterCode.Proofs.Emission.Letters
import StarterCode.Proofs.Emission.Unambiguous

/-!
# What a stub includes

A stub in C++ includes the standard headers whose types its signature names. They are found by one
walk through the types, and the signature is spelled by another one, so that they fit together has
to be shown: a name that a standard header declares occurs in the spelling of a type exactly when
the walk meets a type that needs it (`Cpp.infix_spell?_iff`).

The spelling of a type begins with a word or the name of a template, `Cpp.stem`, and this is where
it differs from the spellings of its components: there is always a bracket or a separator in
between, and the names have none of these characters. So what is left is a look at seven words.

No other line of a stub begins with a number sign. The comment with the name of the problem and the
head of the function begin with something else, whatever names and types there are, and neither has
a line end in it, so the lines of the text are those of the code.
-/

set_option autoImplicit false

namespace StarterCode

/-- The spelled types of a header, of the parameters in order and of the returned value. -/
def Header.types (header : Header) : List String :=
  header.parameters.map (·.type) ++ [header.returnType]

/-- The types of a header are those of its problem, spelled. -/
theorem Dialect.Heads.spellAll?_eq {dialect : Dialect} {problem : Problem} {header : Header}
    (h : dialect.Heads problem header) :
    dialect.spelling.spellAll? problem.types = some header.types := by
  apply Spelling.spellAll?_of_forall₂
  refine List.rel_append ?_ (.cons h.spell?_eq .nil)
  rw [List.forall₂_map_left_iff, List.forall₂_map_right_iff]
  exact h.parameters.imp fun _ _ hwrites => hwrites.spell?_eq

namespace Cpp

/-! ## Names and the standard headers that declare them -/

/-- The standard headers that starter code needs, in alphabetical order, each with the type that it
declares. -/
def declared : List (String × String) := [
  ("string", "std::string"), ("tuple", "std::tuple"), ("utility", "std::pair"),
  ("vector", "std::vector")]

/-- The word or the name of the template with which the spelling of a type begins. A custom type has
no spelling. -/
def stem : ValueType → String
  | .integer => "int"
  | .float => "double"
  | .boolean => "bool"
  | .string => "std::string"
  | .array _ => "std::vector"
  | .tuple components => if components.length = 2 then "std::pair" else "std::tuple"
  | .custom _ => ""

variable {library name : String}

/-- A type needs the standard header that declares the name with which its spelling begins. -/
theorem infix_stem_iff (h : (library, name) ∈ declared) (type : ValueType) :
    name.toList <:+: (stem type).toList ↔ library? type = some library := by
  have hwords : ∀ entry ∈ declared, ∀ word ∈ [("int", none), ("double", none), ("bool", none),
      ("std::string", some "string"), ("std::vector", some "vector"),
      ("std::pair", some "utility"), ("std::tuple", some "tuple"), ("", none)],
      (entry.2.toList <:+: word.1.toList ↔ word.2 = some entry.1) := by
    decide
  refine hwords _ h (stem type, library? type) ?_
  cases type with
  | tuple components => by_cases hpair : components.length = 2 <;> simp [stem, library?, hpair]
  | _ => simp [stem, library?]

/-- No name has a character of what is written between it and the components, or between two
components. -/
theorem not_mem_of_mem_declared (h : (library, name) ∈ declared) :
    name.toList ≠ [] ∧ ∀ c ∈ ['<', '>', ',', ' '], c ∉ name.toList := by
  have hnames : ∀ entry ∈ declared, entry.2.toList ≠ [] ∧
      ∀ c ∈ ['<', '>', ',', ' '], c ∉ entry.2.toList := by
    simp [declared]
  exact hnames _ h

/-! ## Names in spellings -/

/-- The spelling of an array is that of its element between brackets. -/
theorem toList_spell?_array {element : ValueType} {spelled : String}
    (h : spelling.spell? (.array element) = some spelled) :
    ∃ inner, spelling.spell? element = some inner ∧
      spelled.toList = (stem (.array element)).toList ++ '<' :: (inner.toList ++ '>' :: []) := by
  obtain ⟨inner, hinner, rfl⟩ := Option.map_eq_some_iff.mp h
  have hfront : Spelling.front spelling.array = "std::vector".toList ++ ['<'] := by decide
  have hback : Spelling.back spelling.array = ['>'] := by decide
  refine ⟨inner, hinner, ?_⟩
  rw [Spelling.toList_fill (by decide), hfront, hback, List.append_assoc, List.append_assoc]
  rfl

/-- The spelling of a tuple is that of its components between brackets. -/
theorem toList_spell?_tuple {components : List ValueType} {spelled : String}
    (h : spelling.spell? (.tuple components) = some spelled) :
    ∃ parts, spelling.spellAll? components = some parts ∧
      spelled.toList = (stem (.tuple components)).toList ++
        '<' :: ([',', ' '].intercalate (parts.map String.toList) ++ '>' :: []) := by
  obtain ⟨parts, hparts, rfl⟩ := Option.map_eq_some_iff.mp h
  have hslot := prefixFree.hasSlot_tupleTemplate components.length
  have hfront : Spelling.front (spelling.tupleTemplate components.length) =
      (stem (.tuple components)).toList ++ ['<'] := by
    rw [stem, Spelling.tupleTemplate]
    split <;> decide
  have hback : Spelling.back (spelling.tupleTemplate components.length) = ['>'] := by
    rw [Spelling.tupleTemplate]
    split <;> decide
  refine ⟨parts, hparts, ?_⟩
  rw [Spelling.toList_fill hslot, hfront, hback, String.toList_intercalate, List.append_assoc,
    List.append_assoc]
  rfl

/-- A scalar type is spelled as one word, and no other type is nested in it. -/
theorem infix_scalar_iff (h : (library, name) ∈ declared) (type : ValueType)
    (hscalar : type.isScalar = true) :
    name.toList <:+: (stem type).toList ↔ ∃ inner ∈ type.walk, library? inner = some library := by
  rw [ValueType.walk_of_isScalar hscalar, infix_stem_iff h]
  simp only [List.mem_singleton, exists_eq_left]

mutual

/-- **The two walks agree.** A name occurs in the spelling of a type when the standard header that
declares it is needed by the type or by one that is nested in it. -/
theorem infix_spell?_iff (h : (library, name) ∈ declared) :
    ∀ {type : ValueType} {spelled : String}, spelling.spell? type = some spelled →
      (name.toList <:+: spelled.toList ↔ ∃ inner ∈ type.walk, library? inner = some library)
  | .integer, _, rfl => infix_scalar_iff h .integer rfl
  | .float, _, rfl => infix_scalar_iff h .float rfl
  | .boolean, _, rfl => infix_scalar_iff h .boolean rfl
  | .string, _, rfl => infix_scalar_iff h .string rfl
  | .array element, _, hspelled => by
    obtain ⟨inner, hinner, hletters⟩ := toList_spell?_array hspelled
    obtain ⟨hne, hapart⟩ := not_mem_of_mem_declared h
    rw [hletters, Text.infix_append_cons_iff (hapart '<' (by simp)),
      Text.infix_append_cons_iff (hapart '>' (by simp)), List.infix_nil, or_iff_left hne,
      ValueType.walk, List.exists_mem_cons_iff, infix_stem_iff h,
      infix_spell?_iff h hinner]
  | .tuple components, _, hspelled => by
    obtain ⟨parts, hparts, hletters⟩ := toList_spell?_tuple hspelled
    obtain ⟨hne, hapart⟩ := not_mem_of_mem_declared h
    have hseparator : ∀ c ∈ [',', ' '], c ∉ name.toList := fun c hc =>
      hapart c (List.mem_cons_of_mem _ (List.mem_cons_of_mem _ hc))
    have hparts := exists_infix_spellAll?_iff h hparts
    rw [hletters, Text.infix_append_cons_iff (hapart '<' (by simp)),
      Text.infix_append_cons_iff (hapart '>' (by simp)), List.infix_nil, or_iff_left hne,
      Text.infix_intercalate_iff hne (by simp) hseparator, ValueType.walk,
      List.exists_mem_cons_iff, infix_stem_iff h, ← hparts]
    simp only [List.mem_map, exists_exists_and_eq_and]
  | .custom name, _, hspelled => by cases hspelled

/-- A name occurs in the spelling of one of the types when the standard header that declares it is
needed somewhere in them. -/
theorem exists_infix_spellAll?_iff (h : (library, name) ∈ declared) :
    ∀ {types : List ValueType} {spelled : List String}, spelling.spellAll? types = some spelled →
      ((∃ part ∈ spelled, name.toList <:+: part.toList) ↔
        ∃ inner ∈ ValueType.walkAll types, library? inner = some library)
  | [], _, hspelled => by
    cases hspelled
    simp [ValueType.walkAll]
  | type :: types, _, hspelled => by
    obtain ⟨first, hfirst, hspelled⟩ := Option.bind_eq_some_iff.mp hspelled
    obtain ⟨others, hothers, hspelled⟩ := Option.bind_eq_some_iff.mp hspelled
    cases hspelled
    rw [List.exists_mem_cons_iff, infix_spell?_iff h hfirst,
      exists_infix_spellAll?_iff h hothers, ValueType.walkAll]
    simp only [List.mem_append, or_and_right, exists_or]

end

/-! ## The standard headers of a problem -/

/-- A problem needs a standard header when one of its types does, at any depth. -/
theorem mem_libraries {problem : Problem} :
    library ∈ libraries problem ↔
      ∃ inner ∈ ValueType.walkAll problem.types, library? inner = some library := by
  have hknown : ∀ inner, library? inner = some library →
      library ∈ ["string", "tuple", "utility", "vector"] := by
    intro inner h
    cases inner with
    | tuple components =>
      rw [library?] at h
      split at h <;> simp [← Option.some.inj h]
    | string | array => simp [← Option.some.inj h]
    | _ => cases h
  simp only [libraries, Problem.nestedTypes, List.mem_filter, List.contains_iff_mem,
    List.mem_filterMap, List.mem_flatMap, ValueType.mem_walkAll]
  constructor
  · rintro ⟨-, needed⟩
    exact needed
  · rintro ⟨inner, hinner, h⟩
    exact ⟨hknown inner h, inner, hinner, h⟩

/-- **The standard headers of a problem** are those that declare a name in a spelled type. -/
theorem mem_libraries_iff_infix {problem : Problem} {header : Header}
    (hheads : dialect.Heads problem header) :
    library ∈ libraries problem ↔
      ∃ name, (library, name) ∈ declared ∧
        ∃ spelled ∈ header.types, name.toList <:+: spelled.toList := by
  constructor
  · intro h
    obtain ⟨entry, hentry, rfl⟩ : ∃ entry ∈ declared, entry.1 = library := by
      have hmem : library ∈ declared.map (·.1) := (List.mem_filter.mp h).1
      exact List.mem_map.mp hmem
    refine ⟨entry.2, hentry, ?_⟩
    exact (exists_infix_spellAll?_iff hentry hheads.spellAll?_eq).mpr (mem_libraries.mp h)
  · rintro ⟨name, hentry, h⟩
    exact mem_libraries.mpr ((exists_infix_spellAll?_iff hentry hheads.spellAll?_eq).mp h)

/-- They are in alphabetical order, and none is there twice. -/
theorem pairwise_libraries (problem : Problem) : (libraries problem).Pairwise (· < ·) := by
  have hall : ["string", "tuple", "utility", "vector"].Pairwise (· < ·) := by decide
  exact hall.sublist List.filter_sublist

/-! ## The lines of a stub -/

/-- Whether the line is for the preprocessor, as all those are that include something: behind blanks
it begins with a number sign. -/
def isDirective (line : List Char) : Bool :=
  (Text.trimLeft line).head? == some '#'

theorem isDirective_of_head? {line : List Char} {c : Char} (hhead : line.head? = some c)
    (hblank : Text.isBlank c = false) : isDirective line = (c == '#') := by
  obtain ⟨rest, rfl⟩ := List.head?_eq_some_iff.mp hhead
  rw [isDirective, Text.trimLeft, List.dropWhile_cons_of_neg (Bool.eq_false_iff.mp hblank)]
  rfl

/-- No line of the function is for the preprocessor, for it begins with the spelling of a type. -/
theorem filter_function {problem : Problem} {header : Header}
    (hheads : dialect.Heads problem header) :
    ((function problem header).map String.toList).filter isDirective = [] := by
  obtain ⟨c, hletter, hhead⟩ := head?_spell? hheads.spell?_eq
  have hletters : ∀ c ∈ ['b', 'd', 'i', 's'], Text.isNameChar c = true := by
    simp [Text.isNameChar]
  have hblank : Text.isBlank c = false := Text.isBlank_of_isNameChar (hletters c hletter)
  have hhash : c ≠ '#' := by
    rintro rfl
    exact absurd hletter (by decide)
  obtain ⟨rest, hreturn⟩ := List.head?_eq_some_iff.mp hhead
  have hbody : ([placeholder, "return " ++ Code.braced "" ++ ";"].map ("    " ++ ·) ++
      ["\x7d" ++ ""]).filter (isDirective ∘ String.toList) = [] := by
    decide
  rw [List.filter_map, List.map_eq_nil_iff, function, Code.block, Code.blockEnding,
    List.append_assoc, List.singleton_append, List.filter_cons_of_neg]
  · exact hbody
  · rw [Function.comp_apply, isDirective_of_head? (c := c) (by simp [hreturn]) hblank]
    simpa using hhash

/-- The lines of a stub that are for the preprocessor include what the problem needs. -/
theorem filter_stub {problem : Problem} {header : Header}
    (hheads : dialect.Heads problem header) :
    ((stub problem header).map String.toList).filter isDirective =
      (libraries problem).map fun library => (includeLine library).toList := by
  have htitle : isDirective (titleLine problem.name).toList = false :=
    isDirective_of_head? (c := '/') (by simp [titleLine]) (by decide)
  have hline : ∀ library, isDirective (includeLine library).toList = true := fun library =>
    isDirective_of_head? (c := '#') (by simp [includeLine]) (by decide)
  have hempty : isDirective [] = false := rfl
  have hincludes : ((includeLines problem).map String.toList).filter isDirective =
      (libraries problem).map fun library => (includeLine library).toList := by
    unfold includeLines
    split
    · next hnone => rw [hnone, List.map_nil, List.filter_nil, List.map_nil]
    · next hsome =>
      rw [List.map_append, List.filter_append, List.map_map, List.filter_eq_self.mpr]
      · simp [hempty, Function.comp_def]
      · intro line hmem
        obtain ⟨library, -, rfl⟩ := List.mem_map.mp hmem
        exact hline library
  rw [stub, List.map_append, List.map_append, List.filter_append, List.filter_append, hincludes,
    filter_function hheads]
  simp [htitle]

/-! ## Line ends -/

section LineEnds

variable {c : Char} {problem : Problem} {header : Header}

/-- Each parameter is written with a type and a name of the header. -/
theorem lacks_function (hc : c = '\n' ∨ c = '\r') (h : header.Lacks c) :
    Code.Lacks c (function problem header) := by
  have hparameters : ∀ text ∈ problem.parameters.zipWith (parameterText ·.type) header.parameters,
      c ∉ text.toList := by
    intro text htext
    rw [← List.map_uncurry_zip_eq_zipWith] at htext
    obtain ⟨⟨parameter, written⟩, hmem, rfl⟩ := List.mem_map.mp htext
    have hwritten : written ∈ header.parameters := (List.of_mem_zip hmem).2
    have hname := h.parameterName hwritten
    have htype := h.types written hwritten
    rw [Function.uncurry_apply_pair, parameterText]
    rcases hc with rfl | rfl <;> split <;> simp [hname, htype]
  have harguments : c ∉ (", ".intercalate
      (problem.parameters.zipWith (parameterText ·.type) header.parameters)).toList :=
    not_mem_toList_intercalate (by rcases hc with rfl | rfl <;> decide) hparameters
  have hhead : ∀ arguments : String, c ∉ arguments.toList →
      c ∉ (header.returnType ++ " " ++ header.functionName ++ "(" ++ arguments ++ ")").toList := by
    intro arguments harguments
    rcases hc with rfl | rfl <;> simp [h.returnType, h.functionName, harguments]
  have hbody : Code.Lacks c [placeholder, "return " ++ Code.braced "" ++ ";"] := by
    rcases hc with rfl | rfl <;> decide
  exact .block_of_lineEnd hc (hhead _ harguments) hbody

theorem lacks_titleLine (hc : c = '\n' ∨ c = '\r') (name : String) :
    Code.Lacks c [titleLine name] := by
  have hname := not_mem_commentText hc name
  rcases hc with rfl | rfl <;> simp [Code.Lacks, titleLine, hname]

theorem lacks_stub (hc : c = '\n' ∨ c = '\r') (h : header.Lacks c) :
    Code.Lacks c (stub problem header) := by
  have hknown : Code.Lacks c (programLibraries.map includeLine ++ [""]) := by
    rcases hc with rfl | rfl <;> decide
  have hincludes : Code.Lacks c (includeLines problem) := fun line hline =>
    hknown line ((includeLines_sublist problem).subset hline)
  rw [stub, Code.lacks_append, Code.lacks_append]
  exact ⟨⟨lacks_titleLine hc problem.name, hincludes⟩, lacks_function hc h⟩

/-- The lines of the text of a stub are those of its code. -/
theorem lines_stub {text : String} (hproblem : Problem.parse text = .ok problem)
    (hheads : dialect.Heads problem header) :
    Text.lines (Code.text (stub problem header)).toList =
      (stub problem header).map String.toList :=
  Code.lines_text_of_lacks fun _ hc =>
    lacks_stub hc (Language.lacks_lineEnd .cpp hproblem hheads hc)

end LineEnds

end Cpp

open Cpp

/-- **What a stub includes.** For every document that gives a stub in C++, the lines of the stub
that are for the preprocessor include standard headers, in alphabetical order and each once. One is
included exactly when a name that it declares occurs in a type as the signature spells it, at
whatever depth. -/
theorem includes_match_signature {text : String} {problem : Problem} {code : Code}
    (hproblem : Problem.parse text = .ok problem) (hcode : problem.emit .cpp = .ok code) :
    ∃ header, ∃ included : List String,
      Cpp.dialect.header problem = .ok header ∧ function problem header <:+ code ∧
      (Text.lines code.text.toList).filter isDirective =
        included.map (fun library => (includeLine library).toList) ∧
      included.Pairwise (· < ·) ∧
      ∀ library, library ∈ included ↔
        ∃ name, (library, name) ∈ declared ∧
          ∃ spelled ∈ header.types, name.toList <:+: spelled.toList := by
  obtain ⟨header, hheader, hstub⟩ := bind_eq_ok.mp hcode
  cases hstub
  have hheads : Cpp.dialect.Heads problem header := Dialect.heads_of_header hheader
  refine ⟨header, libraries problem, hheader, List.suffix_append _ _, ?_,
    pairwise_libraries problem, fun library => mem_libraries_iff_infix hheads⟩
  rw [Language.stubCode, lines_stub hproblem hheads, filter_stub hheads]

/-- A document in which a triple is nested in an array, with a text in it. -/
def gradesDocument : String :=
  "Problem Name: \"Grades\"\nFunction Name: best\n" ++
    "Input Field: grades array of tuple of int, bool and string\nOutput Field: int"

/-- The problem of that document. -/
def gradesProblem : Problem :=
  ⟨"Grades", "best", [⟨"grades", .array (.tuple [.integer, .boolean, .string]), 0⟩], .integer,
    "result"⟩

theorem includes_match_signature_grades :
    Problem.parse gradesDocument = .ok gradesProblem ∧
    ∃ code, ∃ included : List String, gradesProblem.emit .cpp = .ok code ∧
      (Text.lines code.text.toList).filter isDirective =
        included.map (fun library => (includeLine library).toList) ∧
      "string" ∈ included ∧ "tuple" ∈ included ∧ "utility" ∉ included ∧ "vector" ∈ included := by
  have hproblem : Problem.parse gradesDocument = .ok gradesProblem :=
    eq_ok_of_toOption (by decide +kernel)
  have hheader : Cpp.dialect.header gradesProblem = .ok
      ⟨"best", [⟨"grades", "std::vector<std::tuple<int, bool, std::string>>"⟩], "int", "result"⟩ :=
    rfl
  have hcode : gradesProblem.emit .cpp = .ok (stub gradesProblem _) :=
    bind_eq_ok.mpr ⟨_, hheader, rfl⟩
  obtain ⟨header, included, hheader', -, hlines, -, hincluded⟩ :=
    includes_match_signature hproblem hcode
  rw [hheader] at hheader'
  cases hheader'
  have hnone : ∀ entry ∈ declared, entry.1 = "utility" → ∀ spelled ∈
      ["std::vector<std::tuple<int, bool, std::string>>", "int"],
      ¬ entry.2.toList <:+: spelled.toList := by
    decide
  refine ⟨hproblem, _, included, hcode, hlines, ?_, ?_, ?_, ?_⟩
  · exact (hincluded _).mpr ⟨"std::string", by decide, _, List.mem_cons_self, by decide⟩
  · exact (hincluded _).mpr ⟨"std::tuple", by decide, _, List.mem_cons_self, by decide⟩
  · intro hutility
    obtain ⟨name, hname, spelled, hspelled, hwithin⟩ := (hincluded _).mp hutility
    exact hnone _ hname rfl spelled hspelled hwithin
  · exact (hincluded _).mpr ⟨"std::vector", by decide, _, List.mem_cons_self, by decide⟩

end StarterCode
