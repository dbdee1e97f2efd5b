import StarterCode.Proofs.Emission.Code
import StarterCode.Proofs.Emission.Expressible
import StarterCode.Proofs.Problem.Declared
import StarterCode.Proofs.Text.Joined
import StarterCode.Proofs.Text.Lines
import StarterCode.Proofs.Text.SnakeCase

/-!
# Characters that do not occur

Code is put together from fixed text, from names and from spelled types, and no step adds a
character but blanks, braces and line ends. So a character that none of the parts has does not occur
in the whole. For spelled types the parts are the words of the table, for a header they are its
names and types, and for lines of code they are the lines that are indented or put into a block.

A document gives a problem whose names are identifiers, and so are they in any language. What then
occurs in a header are the characters of names and those of the table (`Language.lacks_header`).
-/

set_option autoImplicit false

namespace StarterCode

variable {c : Char}

/-! ## Texts -/

theorem Text.not_mem_intercalate {separator : List Char} {parts : List (List Char)}
    (hseparator : c ∉ separator) (hparts : ∀ part ∈ parts, c ∉ part) :
    c ∉ separator.intercalate parts := by
  induction parts with
  | nil => exact List.not_mem_nil
  | cons part parts ih =>
    have hpart := hparts part List.mem_cons_self
    have hothers := ih fun other hother => hparts other (List.mem_cons_of_mem _ hother)
    by_cases hnil : parts = []
    · subst hnil
      rwa [List.intercalate_singleton]
    · rw [List.intercalate_cons_of_ne_nil hnil]
      simp only [List.mem_append, not_or]
      exact ⟨⟨hpart, hseparator⟩, hothers⟩

theorem Text.not_mem_replaceFirst {opening closing : Char} {inner text : List Char}
    (hinner : c ∉ inner) (htext : c ∉ text) : c ∉ replaceFirst opening closing inner text := by
  fun_induction replaceFirst opening closing inner text with
  | case1 => exact htext
  | case2 d => exact htext
  | case3 d e rest hslot =>
    simp only [List.mem_cons, not_or] at htext
    rw [List.mem_append, not_or]
    exact ⟨hinner, htext.2.2⟩
  | case4 d e rest hslot ih =>
    rw [List.mem_cons, not_or] at htext ⊢
    exact ⟨htext.1, ih htext.2⟩

/-- Strings with a separator between them. -/
theorem not_mem_toList_intercalate {separator : String} {parts : List String}
    (hseparator : c ∉ separator.toList) (hparts : ∀ part ∈ parts, c ∉ part.toList) :
    c ∉ (separator.intercalate parts).toList := by
  rw [String.toList_intercalate]
  apply Text.not_mem_intercalate hseparator
  intro part hpart
  obtain ⟨text, htext, rfl⟩ := List.mem_map.mp hpart
  exact hparts text htext

/-! ## Spelled types -/

namespace Spelling

variable {spelling : Spelling}

/-- Everything that spellings are put together from: words, templates and the separator. -/
def parts (spelling : Spelling) : List String :=
  [spelling.integer, spelling.float, spelling.boolean, spelling.string, spelling.array,
    spelling.pair, spelling.tuple, spelling.separator] ++ spelling.custom.map (·.2)

theorem not_mem_fill {template inner : String} (htemplate : c ∉ template.toList)
    (hinner : c ∉ inner.toList) : c ∉ (fill template inner).toList := by
  rw [fill, String.toList_ofList]
  exact Text.not_mem_replaceFirst hinner htemplate

mutual

/-- A character that no part of the table has is in no spelling. -/
theorem not_mem_of_spell? (hparts : ∀ part ∈ spelling.parts, c ∉ part.toList) :
    ∀ {type : ValueType} {spelled : String}, spelling.spell? type = some spelled →
      c ∉ spelled.toList
  | .integer, _, h | .float, _, h | .boolean, _, h | .string, _, h => by
    cases h
    exact hparts _ (by simp [parts])
  | .array element, _, h => by
    obtain ⟨inner, hinner, rfl⟩ := Option.map_eq_some_iff.mp h
    exact not_mem_fill (hparts _ (by simp [parts])) (not_mem_of_spell? hparts hinner)
  | .tuple components, _, h => by
    obtain ⟨inner, hinner, rfl⟩ := Option.map_eq_some_iff.mp h
    have htemplate : c ∉ (spelling.tupleTemplate components.length).toList := by
      unfold tupleTemplate
      split
      · exact hparts _ (by simp [parts])
      · exact hparts _ (by simp [parts])
    exact not_mem_fill htemplate (not_mem_toList_intercalate (hparts _ (by simp [parts]))
      (not_mem_of_spellAll? hparts hinner))
  | .custom name, spelled, h => by
    obtain ⟨before, after, hcustom, -⟩ := List.lookup_eq_some_iff.mp h
    have hmem : (name, spelled) ∈ spelling.custom := hcustom ▸ by simp
    exact hparts _ (List.mem_append_right _ (List.mem_map_of_mem hmem))

theorem not_mem_of_spellAll? (hparts : ∀ part ∈ spelling.parts, c ∉ part.toList) :
    ∀ {types : List ValueType} {spelled : List String}, spelling.spellAll? types = some spelled →
      ∀ one ∈ spelled, c ∉ one.toList
  | [], _, h => by
    cases h
    exact fun _ hone => absurd hone List.not_mem_nil
  | type :: types, _, h => by
    obtain ⟨first, hfirst, h⟩ := Option.bind_eq_some_iff.mp h
    obtain ⟨others, hothers, h⟩ := Option.bind_eq_some_iff.mp h
    cases h
    intro one hone
    rcases List.mem_cons.mp hone with rfl | hone
    · exact not_mem_of_spell? hparts hfirst
    · exact not_mem_of_spellAll? hparts hothers one hone

end

end Spelling

/-! ## Headers -/

/-- The names and types of the header do not have the character. -/
structure Header.Lacks (c : Char) (header : Header) : Prop where
  names : ∀ name ∈ header.names, c ∉ name.toList
  types : ∀ written ∈ header.parameters, c ∉ written.type.toList
  returnType : c ∉ header.returnType.toList

namespace Header.Lacks

variable {header : Header}

theorem functionName (h : header.Lacks c) : c ∉ header.functionName.toList :=
  h.names _ List.mem_cons_self

theorem outputName (h : header.Lacks c) : c ∉ header.outputName.toList :=
  h.names _ (List.mem_cons_of_mem _ (List.mem_append_right _ (List.mem_singleton_self _)))

theorem parameterName (h : header.Lacks c) {written : Variable}
    (hwritten : written ∈ header.parameters) : c ∉ written.name.toList :=
  h.names _ (List.mem_cons_of_mem _ (List.mem_append_left _ (List.mem_map_of_mem hwritten)))

theorem arguments (h : header.Lacks c) (hcomma : c ∉ ", ".toList) :
    c ∉ header.arguments.toList := by
  apply not_mem_toList_intercalate hcomma
  intro name hname
  obtain ⟨written, hwritten, rfl⟩ := List.mem_map.mp hname
  exact h.parameterName hwritten

end Header.Lacks

/-- A header has the characters of names and those of the table of types. -/
theorem Dialect.Heads.lacks {dialect : Dialect} {problem : Problem} {header : Header}
    (hheads : dialect.Heads problem header)
    (hparts : ∀ part ∈ dialect.spelling.parts, c ∉ part.toList)
    (hnames : ∀ name ∈ problem.namesBy dialect.rename, c ∉ name.toList) : header.Lacks c := by
  refine ⟨?_, ?_, Spelling.not_mem_of_spell? hparts hheads.spell?_eq⟩
  · rw [hheads.names_eq]
    exact hnames
  · intro written hwritten
    obtain ⟨i, hi, rfl⟩ := List.getElem_of_mem hwritten
    have hwrites := hheads.parameters.get (hheads.parameters.length_eq.symm ▸ hi) hi
    exact Spelling.not_mem_of_spell? hparts hwrites.spell?_eq

namespace Language

/-- An identifier is one as any language writes it. -/
theorem isIdentifier_written (language : Language) {name : String}
    (h : Text.isIdentifier name.toList = true) :
    Text.isIdentifier (language.written name).toList = true := by
  cases language with
  | cpp | javaScript => exact h
  | rust =>
    rw [written, String.toList_ofList]
    exact Text.isIdentifier_snakeCase h

/-- A problem that is read has identifiers for names. -/
theorem isIdentifier_of_parse {text : String} {problem : Problem}
    (h : Problem.parse text = .ok problem) (language : Language) :
    ∀ name ∈ problem.namesBy language.written, Text.isIdentifier name.toList = true := by
  have hdeclared := Problem.parse_eq_ok_iff.mp h
  obtain ⟨value, -, houtput⟩ := hdeclared.output
  intro name hname
  rw [Problem.namesBy, List.mem_cons, List.mem_append, List.mem_map, List.mem_singleton] at hname
  rcases hname with rfl | ⟨parameter, hparameter, rfl⟩ | rfl
  · exact language.isIdentifier_written hdeclared.isIdentifier_functionName
  · obtain ⟨_, hdeclares⟩ := hdeclared.exists_declares parameter hparameter
    exact language.isIdentifier_written hdeclares.isIdentifier
  · exact language.isIdentifier_written houtput.isIdentifier

/-- **The header of a problem that is read** has the characters of names and those of the table of
types, and no other. -/
theorem lacks_header (language : Language) {text : String} {problem : Problem} {header : Header}
    (hproblem : Problem.parse text = .ok problem)
    (hheads : language.dialect.Heads problem header) (hname : Text.isNameChar c = false)
    (hparts : ∀ part ∈ language.dialect.spelling.parts, c ∉ part.toList) : header.Lacks c := by
  apply hheads.lacks hparts
  rw [language.rename_dialect]
  intro name hmem hc
  have hidentifier := language.isIdentifier_of_parse hproblem name hmem
  rw [Text.all_isNameChar_of_isIdentifier hidentifier c hc] at hname
  cases hname

/-- No line ends in the header of a problem that is read. -/
theorem lacks_lineEnd (language : Language) {text : String} {problem : Problem} {header : Header}
    (hproblem : Problem.parse text = .ok problem)
    (hheads : language.dialect.Heads problem header) (hc : c = '\n' ∨ c = '\r') :
    header.Lacks c := by
  have hparts : ∀ part ∈ language.dialect.spelling.parts, c ∉ part.toList := by
    rcases hc with rfl | rfl <;> cases language <;> decide
  refine lacks_header language hproblem hheads ?_ hparts
  rcases hc with rfl | rfl <;> decide

end Language

/-! ## Code -/

namespace Code

/-- No line of the code has the character. -/
def Lacks (c : Char) (code : Code) : Prop :=
  ∀ line ∈ code, c ∉ line.toList

instance (c : Char) (code : Code) : Decidable (Lacks c code) := by
  unfold Lacks
  infer_instance

theorem toList_bytes (text : String) :
    text.toByteArray.data.toList = text.toList.flatMap String.utf8EncodeChar := by
  rw [← String.utf8Encode_toList, List.utf8Encode, List.toList_data_toByteArray]

/-- A character that is not among the bytes of the lines does not occur. For fixed text this is the
faster check, since its bytes need not be read as characters. -/
theorem lacks_of_not_mem_bytes (hbyte : c.toUInt8 ∈ String.utf8EncodeChar c) {pieces : List Code}
    (h : ∀ piece ∈ pieces, ∀ line ∈ piece, c.toUInt8 ∉ line.toByteArray.data.toList) :
    ∀ piece ∈ pieces, Lacks c piece := by
  intro piece hpiece line hline hmem
  apply h piece hpiece line hline
  rw [toList_bytes, List.mem_flatMap]
  exact ⟨c, hmem, hbyte⟩

/-- Nor does a word occur of which the bytes are not found. -/
theorem not_infix_of_not_infix_bytes {word line : String}
    (h : ¬ word.toByteArray.data.toList <:+: line.toByteArray.data.toList) :
    ¬ word.toList <:+: line.toList := by
  rintro ⟨front, back, hline⟩
  apply h
  rw [toList_bytes, toList_bytes, ← hline, List.flatMap_append, List.flatMap_append]
  exact List.infix_append _ _ _

theorem lacks_cons {line : String} {code : Code} :
    Lacks c (line :: code) ↔ c ∉ line.toList ∧ Lacks c code :=
  List.forall_mem_cons

theorem lacks_append {code code' : Code} :
    Lacks c (code ++ code') ↔ Lacks c code ∧ Lacks c code' :=
  List.forall_mem_append

theorem Lacks.indented {code : Code} (h : Lacks c code) (hblank : c ≠ ' ') :
    Lacks c (indented code) := by
  intro line hline
  obtain ⟨inner, hinner, rfl⟩ := List.mem_map.mp hline
  split
  · exact h inner hinner
  · simp [hblank, h inner hinner]

/-- What a block has, it has from its header or its body. -/
theorem Lacks.block {header : String} {body : Code} (hheader : c ∉ header.toList)
    (hbody : Lacks c body) (hblank : c ≠ ' ') (hbraces : c ≠ '\x7b' ∧ c ≠ '\x7d') :
    Lacks c (block header body) := by
  rw [Code.block, blockEnding, lacks_append, lacks_append]
  refine ⟨⟨?_, hbody.indented hblank⟩, ?_⟩
  · simp [Lacks, hheader, hblank, hbraces.1]
  · simp [Lacks, hbraces.2]

/-- A block without line ends in its lines is made of such a header and such a body. -/
theorem Lacks.block_of_lineEnd (hc : c = '\n' ∨ c = '\r') {header : String} {body : Code}
    (hheader : c ∉ header.toList) (hbody : Lacks c body) : Lacks c (Code.block header body) := by
  rcases hc with rfl | rfl
  · exact .block hheader hbody (by decide) (by decide)
  · exact .block hheader hbody (by decide) (by decide)

theorem Lacks.spaced {pieces : List Code} (h : ∀ piece ∈ pieces, Lacks c piece) :
    Lacks c (spaced pieces) := by
  intro line hline
  by_cases hempty : line = ""
  · simp [hempty]
  · obtain ⟨piece, hpiece, hmem⟩ := (mem_spaced hempty).mp hline
    exact h piece hpiece line hmem

/-- Code without line ends in its lines has these lines in its text. -/
theorem lines_text_of_lacks {code : Code} (h : ∀ c, c = '\n' ∨ c = '\r' → Lacks c code) :
    Text.lines (text code).toList = code.map String.toList := by
  induction code with
  | nil => rfl
  | cons line code ih =>
    have hfeed := (lacks_cons.mp (h '\n' (.inl rfl))).1
    have hreturn := (lacks_cons.mp (h '\r' (.inr rfl))).1
    have hlast : line.toList.getLast? ≠ some '\r' := fun hlast =>
      hreturn (List.mem_of_getLast? hlast)
    rw [toList_text_cons, Text.lines_append_cons hfeed, Text.dropReturn, if_neg hlast,
      ih fun c hc => (lacks_cons.mp (h c hc)).2, List.map_cons]

end Code

end StarterCode
