import Mathlib.Data.List.Chain
import StarterCode.Proofs.Emission.Agreement
import StarterCode.Proofs.Emission.Comment
import StarterCode.Proofs.Emission.Expressible
import StarterCode.Proofs.Emission.Letters

/-!
# The comment that documents a function

In JavaScript the function stands behind a comment that documents it, and the comment ends at the
first sign that closes a comment, a star with a slash behind it. This is the sign in the last line
of the comment, for there is no other one in all of the code.

There are two reasons, one for the comment and one for everything else. In the name of the problem
no star is followed by a slash once blanks have been put between them, and no step after this can
bring them together, since line ends become blanks and not nothing. And outside of the comment there
is no star at all: not in the fixed text, not in an identifier, and not in the spelling of a type.
Lines are looked at one by one, because the sign does not reach over a line end.
-/

set_option autoImplicit false

namespace StarterCode

/-- The sign that closes a comment. -/
def closingSign : List Char := "*/".toList

/-! ## The name of the problem -/

/-- Neighbours in a text that are not a sign that closes a comment. -/
def KeepsOpen (c d : Char) : Prop :=
  ¬ (c = '*' ∧ d = '/')

theorem not_closingSign_infix {text : List Char} (h : text.IsChain KeepsOpen) :
    ¬ closingSign <:+: text := by
  intro hwithin
  have hsign : ['*', '/'].IsChain KeepsOpen := h.infix hwithin
  exact (List.isChain_cons_cons.mp hsign).1 ⟨rfl, rfl⟩

/-- Only behind a star is something put in, so the first character stays the first. -/
theorem head?_openStars (text : List Char) : (openStars text).head? = text.head? := by
  fun_cases openStars text with
  | case1 => rfl
  | case2 c => rfl
  | case3 c d rest hsign =>
    obtain ⟨rfl, -⟩ := hsign
    rfl
  | case4 c d rest hother => rfl

theorem isChain_openStars (text : List Char) : (openStars text).IsChain KeepsOpen := by
  fun_induction openStars text with
  | case1 => exact .nil
  | case2 c => exact .singleton c
  | case3 c d rest hsign ih =>
    have hblank : ∀ e, KeepsOpen ' ' e := fun _ h => absurd h.1 (by decide)
    have hslash : ∀ e, KeepsOpen '/' e := fun _ h => absurd h.1 (by decide)
    have hstar : KeepsOpen '*' ' ' := fun h => absurd h.2 (by decide)
    rw [List.isChain_cons_cons, List.isChain_cons_cons, List.isChain_cons]
    exact ⟨hstar, hblank _, fun _ _ => hslash _, ih⟩
  | case4 c d rest hother ih =>
    rw [List.isChain_cons]
    refine ⟨?_, ih⟩
    intro e he
    rw [head?_openStars] at he
    obtain rfl : d = e := Option.some.inj he
    exact hother

/-- The name of a problem does not close the comment it stands in. -/
theorem not_closingSign_infix_commentText (name : String) :
    ¬ closingSign <:+: (commentText name).toList := by
  apply not_closingSign_infix
  rw [toList_commentText, List.isChain_map]
  refine (isChain_openStars name.toList).imp ?_
  -- a star or a slash that is there when line ends are gone was there before
  have hkept : ∀ c d : Char, d ≠ ' ' → (if c = '\n' ∨ c = '\r' then ' ' else c) = d → c = d := by
    intro c d hblank hc
    split at hc
    · exact absurd hc.symm hblank
    · exact hc
  intro c d hopen hclosed
  exact hopen ⟨hkept c '*' (by decide) hclosed.1, hkept d '/' (by decide) hclosed.2⟩

/-! ## Code without stars -/

/-- Code without a star does not close a comment. -/
theorem Code.Lacks.not_closingSign_infix {code : Code} (h : Code.Lacks '*' code) :
    ∀ line ∈ code, ¬ closingSign <:+: line.toList :=
  fun line hline hwithin => h line hline (hwithin.subset (by decide))

namespace JavaScript

open Code

section Rest

variable {laidOut : LaidOutProblem} {problem : Problem} {header : Header} {c : Char}

/-- The function with an empty body. -/
def emptyFunction (header : Header) : Code :=
  block ("function " ++ header.functionName ++ "(" ++ header.arguments ++ ")") [placeholder]

theorem lacks_emptyFunction (hc : c = '*' ∨ c = '\n' ∨ c = '\r') (h : header.Lacks c) :
    Lacks c (emptyFunction header) := by
  have harguments := h.arguments (by rcases hc with rfl | rfl | rfl <;> decide)
  have hhead : c ∉
      ("function " ++ header.functionName ++ "(" ++ header.arguments ++ ")").toList := by
    rcases hc with rfl | rfl | rfl <;> simp [h.functionName, harguments]
  rcases hc with rfl | rfl | rfl
  all_goals exact .block hhead (by decide) (by decide) (by decide)

/-- The expression that reads an input is made of names of readers. -/
theorem not_mem_readingText (hc : c = '*' ∨ c = '\n' ∨ c = '\r') {input : Input} {text : String}
    (h : readingText input = .ok text) : c ∉ text.toList := by
  have hparts : ∀ part ∈ readers.parts, c ∉ part.toList := by
    rcases hc with rfl | rfl | rfl <;> decide
  unfold readingText at h
  cases hlayout : input.layout with
  | counted =>
    rw [hlayout] at h
    obtain ⟨reader, hreader, h⟩ := bind_eq_ok.mp h
    cases h
    rw [Spelling.spellFor_eq_ok] at hreader
    have hspelled := Spelling.not_mem_of_spell? hparts hreader
    rcases hc with rfl | rfl | rfl <;> simp [hspelled]
  | line =>
    rw [hlayout] at h
    obtain ⟨word, hword, h⟩ := bind_eq_ok.mp h
    cases h
    have hnone : c ∉ word.toList := by
      unfold wordReader at hword
      split at hword
      all_goals
        cases hword
        try rcases hc with rfl | rfl | rfl <;> decide
    rcases hc with rfl | rfl | rfl <;> simp [hnone]

theorem lacks_reading (hc : c = '*' ∨ c = '\n' ∨ c = '\r') (h : header.Lacks c) {reading : Code}
    (hreading : (readings laidOut header).mapM readingLine = .ok reading) : Lacks c reading := by
  intro line hline
  obtain ⟨⟨input, written⟩, hmem, hread⟩ := exists_of_mem_of_mapM_eq_ok hreading line hline
  obtain ⟨text, htext, hread⟩ := bind_eq_ok.mp hread
  cases hread
  have hname := h.parameterName (List.of_mem_zip hmem).2
  have hnone := not_mem_readingText hc htext
  rcases hc with rfl | rfl | rfl <;> simp [hname, hnone]

theorem lacks_mainFunction (hc : c = '*' ∨ c = '\n' ∨ c = '\r') (h : header.Lacks c)
    {reading : Code} (hreading : Lacks c reading) :
    Lacks c (mainFunction laidOut header reading) := by
  have hcall : Lacks c [callLine header] := by
    have harguments := h.arguments (by rcases hc with rfl | rfl | rfl <;> decide)
    rcases hc with rfl | rfl | rfl <;>
      simp [Lacks, callLine, h.outputName, h.functionName, harguments]
  have hwriting : Lacks c (writingLines header laidOut.outputLayout) := by
    have houtput := h.outputName
    cases laidOut.outputLayout with
    | line => rcases hc with rfl | rfl | rfl <;> simp [Lacks, writingLines, houtput]
    | lines =>
      have hhead : c ∉ ("for (const item of " ++ header.outputName ++ ")").toList := by
        rcases hc with rfl | rfl | rfl <;> simp [houtput]
      rcases hc with rfl | rfl | rfl
      all_goals exact .block hhead (by decide) (by decide) (by decide)
  have hreader : Lacks c ["const reader = new TokenReader(fs.readFileSync(0, 'utf-8'));"] := by
    rcases hc with rfl | rfl | rfl <;> decide
  have hbody := lacks_append.mpr ⟨lacks_append.mpr ⟨lacks_append.mpr ⟨hreader, hreading⟩, hcall⟩,
    hwriting⟩
  rcases hc with rfl | rfl | rfl
  all_goals exact .block (by decide) hbody (by decide) (by decide)

/-- The pieces of programs that do not depend on the problem. -/
def fixedPieces : List Code := [
  ["const fs = require('fs');"], tokenReader, readHelpers, readLineHelper, formatHelper,
  ["main();"]]

theorem lacks_fixedPieces (hc : c = '*' ∨ c = '\n' ∨ c = '\r') :
    ∀ piece ∈ fixedPieces, Lacks c piece := by
  rcases hc with rfl | rfl | rfl
  all_goals exact lacks_of_not_mem_bytes (by decide) (by decide +kernel)

/-- In a program there is no star before the stub and none behind it, and no line ends there inside
of a line. -/
theorem exists_eq_of_program (hc : c = '*' ∨ c = '\n' ∨ c = '\r') (h : header.Lacks c)
    {code : Code} (hcode : program laidOut header = .ok code) :
    ∃ front back, code = front ++ stub laidOut.problem header ++ back ∧
      Lacks c front ∧ Lacks c back := by
  obtain ⟨reading, hreading, hcode⟩ := bind_eq_ok.mp hcode
  cases hcode
  have hfixed := lacks_fixedPieces hc
  have hmain : Lacks c (mainFunction laidOut header reading) :=
    lacks_mainFunction hc h (lacks_reading hc h hreading)
  have hpieces : ∀ piece ∈ [tokenReader, readHelpers] ++
      (if readsLines laidOut then [readLineHelper] else []) ++
      [formatHelper, mainFunction laidOut header reading, ["main();"]], Lacks c piece := by
    intro piece hpiece
    simp only [List.mem_append, List.mem_cons, List.mem_ite_nil_right, List.not_mem_nil,
      or_false] at hpiece
    rcases hpiece with ((rfl | rfl) | ⟨-, rfl⟩) | rfl | rfl | rfl
    · exact hfixed _ (by simp [fixedPieces])
    · exact hfixed _ (by simp [fixedPieces])
    · exact hfixed _ (by simp [fixedPieces])
    · exact hfixed _ (by simp [fixedPieces])
    · exact hmain
    · exact hfixed _ (by simp [fixedPieces])
  have hempty : Lacks c [""] := by simp [Lacks]
  refine ⟨["const fs = require('fs');"] ++ [""], [""] ++ spaced _, ?_, ?_,
    lacks_append.mpr ⟨hempty, Lacks.spaced hpieces⟩⟩
  · simp [spaced_cons_cons]
  · exact lacks_append.mpr ⟨hfixed ["const fs = require('fs');"] (by simp [fixedPieces]), hempty⟩

end Rest

section Stars

variable {problem : Problem} {header : Header}

/-! ## The comment -/

/-- The lines of the comment between its first and its last one. -/
def docLines (problem : Problem) (header : Header) : Code :=
  [" * " ++ commentText problem.name, " *"] ++ header.parameters.map parameterTag ++
    [" * @returns " ++ braced header.returnType]

theorem stub_eq (problem : Problem) (header : Header) :
    stub problem header =
      "/**" :: docLines problem header ++ " */" :: emptyFunction header := by
  simp [stub, docLines, emptyFunction]

/-- Of a line that begins as those of the comment do, the rest decides whether it closes it. -/
theorem open_of_rest {line : String} (rest : List Char)
    (hline : line.toList = " * ".toList ++ rest) (h : ¬ closingSign <:+: rest) :
    " *".toList <+: line.toList ∧ ¬ closingSign <:+: line.toList := by
  rw [hline]
  constructor
  · exact ⟨' ' :: rest, rfl⟩
  · -- the star has a blank behind it, so the sign cannot begin before the rest
    simp [closingSign, List.infix_cons_iff, List.cons_prefix_cons] at h ⊢
    exact h

/-- The lines of the comment begin with a star and do not close it. -/
theorem docLines_open (h : header.Lacks '*') : ∀ line ∈ docLines problem header,
    " *".toList <+: line.toList ∧ ¬ closingSign <:+: line.toList := by
  have hrest : ∀ {rest : List Char}, '*' ∉ rest → ¬ closingSign <:+: rest :=
    fun hstar hwithin => hstar (hwithin.subset (by decide))
  intro line hline
  simp only [docLines, List.mem_append, List.mem_cons, List.mem_map, List.not_mem_nil,
    or_false] at hline
  rcases hline with ((rfl | rfl) | ⟨written, hwritten, rfl⟩) | rfl
  · refine open_of_rest _ ?_ (not_closingSign_infix_commentText problem.name)
    rw [String.toList_append]
  · exact ⟨by decide, by decide⟩
  · refine open_of_rest ("@param " ++ braced written.type ++ " " ++ written.name).toList ?_
      (hrest ?_)
    · simp [parameterTag]
    · simp [braced, h.types written hwritten, h.parameterName hwritten]
  · refine open_of_rest ("@returns " ++ braced header.returnType).toList ?_ (hrest ?_)
    · simp
    · simp [braced, h.returnType]

/-- Between code without stars, the comment has the sign that closes it once. -/
theorem count_closingSign (h : header.Lacks '*') {front back : Code} (hfront : Lacks '*' front)
    (hback : Lacks '*' back) :
    Text.count closingSign
      (text (front ++ "/**" :: docLines problem header ++ " */" :: back)).toList = 1 := by
  have hne : closingSign ≠ [] := by decide
  have hfeed : '\n' ∉ closingSign := by decide
  have hopen : ∀ line ∈ "/**" :: docLines problem header, ¬ closingSign <:+: line.toList := by
    intro line hline
    rcases List.mem_cons.mp hline with rfl | hline
    · decide
    · exact (docLines_open h line hline).2
  have hclose : Text.count closingSign " */".toList = 1 := by decide
  rw [count_text_append hne hfeed, count_text_append hne hfeed, count_text_cons hne hfeed " */",
    hclose, count_text_eq_zero hne hfeed hfront.not_closingSign_infix,
    count_text_eq_zero hne hfeed hopen, count_text_eq_zero hne hfeed hback.not_closingSign_infix]

/-- The function stands behind the last line of the comment. -/
theorem exists_eq_of_stub (problem : Problem) (h : header.Lacks '*') (front : Code) {back : Code}
    (hback : Lacks '*' back) :
    ∃ signature rest, front ++ stub problem header ++ back =
        front ++ "/**" :: docLines problem header ++ " */" :: signature :: rest ∧
      "function ".toList <+: signature.toList ∧ Lacks '*' (signature :: rest) := by
  obtain ⟨body, hbody⟩ := prefix_block
    ("function " ++ header.functionName ++ "(" ++ header.arguments ++ ")") [placeholder]
  have hfunction : emptyFunction header ++ back =
      ("function " ++ header.functionName ++ "(" ++ header.arguments ++ ")" ++ " \x7b") ::
        (body ++ back) := by
    rw [emptyFunction, ← hbody, List.singleton_append, List.cons_append]
  have hrest := lacks_append.mpr ⟨lacks_emptyFunction (.inl rfl) h, hback⟩
  refine ⟨_, body ++ back, ?_, ?_, hfunction ▸ hrest⟩
  · rw [stub_eq, ← hfunction]
    simp
  · simp only [String.toList_append, List.append_assoc]
    exact List.prefix_append _ _

end Stars

/-- There is no star in a name and none in the table of types. -/
theorem lacks_of_header {text : String} {problem : Problem} {header : Header}
    (hproblem : Problem.parse text = .ok problem) (hheader : dialect.header problem = .ok header) :
    header.Lacks '*' :=
  Language.lacks_header .javaScript hproblem (Dialect.heads_of_header hheader)
    (by decide) (by decide)

/-- In the stub and the program of a document the only stars are those of the comment. -/
theorem exists_eq_of_emit {text : String} {code : Code}
    (h : (∃ problem, Problem.parse text = .ok problem ∧ problem.emit .javaScript = .ok code) ∨
      ∃ laidOut, LaidOutProblem.parse text = .ok laidOut ∧ laidOut.emit .javaScript = .ok code) :
    ∃ problem header front signature back,
      code = front ++ "/**" :: docLines problem header ++ " */" :: signature :: back ∧
      "function ".toList <+: signature.toList ∧
      header.Lacks '*' ∧ Lacks '*' front ∧ Lacks '*' (signature :: back) := by
  rcases h with ⟨problem, hproblem, hcode⟩ | ⟨laidOut, hlaidOut, hcode⟩
  · obtain ⟨header, hheader, hcode⟩ := bind_eq_ok.mp hcode
    cases hcode
    have hlacks := lacks_of_header hproblem hheader
    have hnone : Lacks '*' [] := by decide
    obtain ⟨signature, rest, heq, hfunction, hrest⟩ :=
      exists_eq_of_stub problem hlacks [] hnone
    rw [List.nil_append, List.append_nil] at heq
    exact ⟨problem, header, [], signature, rest, heq, hfunction, hlacks, hnone, hrest⟩
  · have hproblem := (LaidOutProblem.fits_of_parse hlaidOut).1
    obtain ⟨header, hheader, hcode⟩ := bind_eq_ok.mp hcode
    have hlacks := lacks_of_header hproblem hheader
    obtain ⟨front, back, rfl, hfront, hback⟩ :=
      exists_eq_of_program (.inl rfl) hlacks hcode
    obtain ⟨signature, rest, heq, hfunction, hrest⟩ :=
      exists_eq_of_stub laidOut.problem hlacks front hback
    exact ⟨laidOut.problem, header, front, signature, rest, heq, hfunction, hlacks, hfront, hrest⟩

end JavaScript

open JavaScript

/-- **The comment is closed once.** In every stub and every program in JavaScript that a document
gives, whatever the name of the problem, the sign that closes a comment occurs once. It is at the
end of the comment that documents the function, in front of the function. -/
theorem doc_comment_closed_once {text : String} {code : Code}
    (h : (∃ problem, Problem.parse text = .ok problem ∧ problem.emit .javaScript = .ok code) ∨
      ∃ laidOut, LaidOutProblem.parse text = .ok laidOut ∧ laidOut.emit .javaScript = .ok code) :
    Text.count closingSign (Code.text code).toList = 1 ∧
    ∃ front inner signature back,
      code = front ++ "/**" :: inner ++ " */" :: signature :: back ∧
      (∀ line ∈ inner, " *".toList <+: line.toList) ∧
      "function ".toList <+: signature.toList ∧
      (Code.text code).toList = (Code.text (front ++ "/**" :: inner)).toList ++
        ' ' :: (closingSign ++ '\n' :: (Code.text (signature :: back)).toList) := by
  obtain ⟨problem, header, front, signature, back, rfl, hfunction, hlacks, hfront, hback⟩ :=
    exists_eq_of_emit h
  have hstars : ∀ line ∈ docLines problem header, " *".toList <+: line.toList :=
    fun line hline => (docLines_open hlacks line hline).1
  refine ⟨count_closingSign hlacks hfront hback, front, docLines problem header, signature, back,
    rfl, hstars, hfunction, ?_⟩
  rw [Code.text_append, String.toList_append, Code.toList_text_cons " */"]
  rfl

/-- A document for a problem whose name has stars and slashes in many orders, one pair with a
carriage return between. -/
def starryDocument : String :=
  "Problem Name: \"/**/*\r/**//\"\nFunction Name: f\nInput Field: a int\nOutput Field: int"

theorem doc_comment_closed_once_starry :
    ∃ code, (∃ problem, Problem.parse starryDocument = .ok problem ∧
        problem.emit .javaScript = .ok code) ∧
      code[1]? = some " * /** /* /** //" ∧ Text.count closingSign (Code.text code).toList = 1 := by
  have hproblem : Problem.parse starryDocument =
      .ok ⟨"/**/*\r/**//", "f", [⟨"a", .integer, 0⟩], .integer, "result"⟩ :=
    eq_ok_of_toOption (by decide +kernel)
  have hcode : Problem.emit ⟨"/**/*\r/**//", "f", [⟨"a", .integer, 0⟩], .integer, "result"⟩
      .javaScript = .ok
      ["/**", " * /** /* /** //", " *", " * @param \x7bnumber\x7d a", " * @returns \x7bnumber\x7d",
        " */", "function f(a) \x7b", "    // Implementation goes here", "\x7d"] :=
    eq_ok_of_toOption (by decide +kernel)
  exact ⟨_, ⟨_, hproblem, hcode⟩, rfl, (doc_comment_closed_once (.inl ⟨_, hproblem, hcode⟩)).1⟩

end StarterCode
