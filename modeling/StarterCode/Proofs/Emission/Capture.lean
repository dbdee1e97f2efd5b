import StarterCode.Proofs.Emission.Order

/-!
# The names bound in a program in JavaScript

The function `main` of a program in JavaScript binds names of its own beside those of the problem:
`reader` for what is read, and `item` for the elements of an array that is written line by line. The
first one is reserved, so no name of the problem is taken from it. The second one is not. It is
bound in the head of a loop over the returned value, `for (const item of result)`, and there a
returned value of the same name is out of reach: the head speaks of the new `item`.

Which names a line binds is read off its words, so that what is said here is said of the text that
is written. The names of the problem are identifiers and hold no blank, and so each of them is the
word that it is written as.
-/

set_option autoImplicit false

namespace StarterCode

namespace JavaScript

/-- The name that a line binds, as a constant or as the variable of a loop. -/
def boundName? (line : String) : Option String :=
  match (Text.words line.toList).map String.ofList with
  | first :: second :: rest =>
    if first = "const" then some second
    else if first = "for" ∧ second = "(const" then rest.head?
    else none
  | _ => none

/-- The names that the lines bind, in order. -/
def boundNames (code : Code) : List String :=
  code.filterMap boundName?

/-- The names that are bound to write the returned value. -/
def loopNames : OutputLayout → List String
  | .line => []
  | .lines => ["item"]

/-! ## Lines -/

section Lines

variable {name : String}

/-- A word in front of a space. -/
theorem words_append_space (word : String) (hne : word.toList ≠ [])
    (hword : ∀ c ∈ word.toList, Text.isBlank c = false) (rest : List Char) :
    Text.words (word.toList ++ ' ' :: rest) = word.toList :: Text.words rest :=
  Text.words_append hne hword (by decide) rest

/-- A line that declares a constant binds its name. -/
theorem boundName?_const (h : Text.isIdentifier name.toList = true) (value : String) :
    boundName? ("const " ++ name ++ " = " ++ value) = some name := by
  have hwords : Text.words ("const " ++ name ++ " = " ++ value).toList =
      "const".toList :: name.toList :: Text.words ("= ".toList ++ value.toList) := by
    rw [← words_append_space name (Text.ne_nil_of_isIdentifier h)
        (Text.not_isBlank_of_isIdentifier h),
      ← words_append_space "const" (by decide) (by simp [Text.isBlank])]
    simp
  rw [boundName?, hwords, List.map_cons, List.map_cons, String.ofList_toList, String.ofList_toList]
  exact if_pos rfl

/-- The head of the loop binds the name of its variable. -/
theorem boundName?_loop (name : String) :
    boundName? ("for (const item of " ++ name ++ ")" ++ " \x7b") = some "item" := by
  have hwords : Text.words ("for (const item of " ++ name ++ ")" ++ " \x7b").toList =
      "for".toList :: "(const".toList :: "item".toList ::
        Text.words ("of ".toList ++ name.toList ++ ") \x7b".toList) := by
    rw [← words_append_space "item" (by decide) (by simp [Text.isBlank]),
      ← words_append_space "(const" (by decide) (by simp [Text.isBlank]),
      ← words_append_space "for" (by decide) (by simp [Text.isBlank])]
    simp
  simp only [boundName?, hwords, List.map_cons, String.ofList_toList]
  rfl

/-- A line that writes a value binds nothing. -/
theorem boundName?_log (h : Text.isIdentifier name.toList = true) :
    boundName? ("console.log(formatValue(" ++ name ++ "));") = none := by
  have hblank : ∀ c ∈ ("console.log(formatValue(" ++ name ++ "));").toList,
      Text.isBlank c = false := by
    have hfront : ∀ c ∈ "console.log(formatValue(".toList, Text.isBlank c = false := by
      simp [Text.isBlank]
    have hback : ∀ c ∈ "));".toList, Text.isBlank c = false := by simp [Text.isBlank]
    intro c hc
    rw [String.toList_append, String.toList_append, List.mem_append, List.mem_append] at hc
    rcases hc with (hc | hc) | hc
    · exact hfront c hc
    · exact Text.not_isBlank_of_isIdentifier h c hc
    · exact hback c hc
  rw [boundName?, Text.words_of_not_isBlank (by simp) hblank]
  rfl

/-- Moving a line to the right changes nothing in what it binds. -/
theorem boundName?_indented (line : String) : boundName? ("    " ++ line) = boundName? line := by
  have hblank : Text.isBlank ' ' = true := by decide
  have htext : ("    " ++ line).toList = ' ' :: ' ' :: ' ' :: ' ' :: line.toList := by simp
  rw [boundName?, htext]
  simp only [Text.words_cons_of_isBlank hblank]
  rfl

end Lines

/-! ## The function `main` -/

theorem boundNames_append (code code' : Code) :
    boundNames (code ++ code') = boundNames code ++ boundNames code' :=
  List.filterMap_append

theorem boundNames_indented (code : Code) : boundNames (Code.indented code) = boundNames code := by
  rw [boundNames, Code.indented, List.filterMap_map]
  refine List.filterMap_congr ?_
  intro line _
  by_cases hempty : line.isEmpty = true
  · exact congrArg boundName? (if_pos hempty)
  · exact (congrArg boundName? (if_neg hempty)).trans (boundName?_indented line)

/-- A block binds what its header and its body bind. -/
theorem boundNames_block (header : String) (body : Code) :
    boundNames (Code.block header body) = boundNames [header ++ " \x7b"] ++ boundNames body := by
  have hbrace : boundNames ["\x7d" ++ ""] = [] := by decide
  rw [Code.block, Code.blockEnding, boundNames_append, boundNames_append, boundNames_indented,
    hbrace, List.append_nil]

/-- What reads the parameters binds their names. -/
theorem boundNames_readLines {entries : List ParameterEntry}
    (h : ∀ entry ∈ entries, Text.isIdentifier entry.written.name.toList = true) :
    boundNames (entries.flatMap Language.javaScript.readLines) =
      entries.map (·.written.name) := by
  induction entries with
  | nil => rfl
  | cons entry entries ih =>
    have hname := boundName?_const (h entry List.mem_cons_self) (entry.reader ++ "(reader)" ++ ";")
    rw [← String.append_assoc] at hname
    have hline : boundNames (Language.javaScript.readLines entry) = [entry.written.name] := by
      rw [Language.readLines, boundNames, List.filterMap_cons, hname]
      rfl
    rw [List.flatMap_cons, boundNames_append, hline, List.map_cons,
      ih fun other hother => h other (List.mem_cons_of_mem _ hother), List.singleton_append]

theorem boundNames_writingLines {header : Header}
    (h : Text.isIdentifier header.outputName.toList = true) (layout : OutputLayout) :
    boundNames (writingLines header layout) = loopNames layout := by
  cases layout with
  | line =>
    rw [writingLines, boundNames, List.filterMap_cons, boundName?_log h]
    rfl
  | lines =>
    have hlog : boundNames ["console.log(formatValue(item));"] = [] := by decide
    rw [writingLines, boundNames_block, hlog, boundNames, List.filterMap_cons, boundName?_loop]
    rfl

/-- The function `main` binds `reader`, the parameters, the returned value, and what it takes to
write this value. -/
theorem boundNames_mainCode {header : Header} {entries : List ParameterEntry}
    (hentries : ∀ entry ∈ entries, Text.isIdentifier entry.written.name.toList = true)
    (houtput : Text.isIdentifier header.outputName.toList = true) (layout : OutputLayout) :
    boundNames (Language.javaScript.mainCode header entries layout) =
      "reader" :: (entries.map (·.written.name) ++ header.outputName :: loopNames layout) := by
  have hhead : boundNames ["function main()" ++ " \x7b"] = [] := by decide
  have hreader : boundNames ["const reader = new TokenReader(fs.readFileSync(0, 'utf-8'));"] =
      ["reader"] := by decide
  have hcall : boundNames [Language.javaScript.callLine header entries] = [header.outputName] := by
    rw [Language.callLine, boundNames, List.filterMap_cons, boundName?_const houtput]
    rfl
  rw [Language.mainCode, boundNames_block, boundNames_append, boundNames_append, boundNames_append,
    hhead, hreader, boundNames_readLines hentries, hcall, boundNames_writingLines houtput]
  simp only [List.nil_append, List.cons_append, List.append_assoc]

/-- In a program the function `main` binds the names of the problem as they were declared, for this
language writes all names as they are. -/
theorem boundNames_mainFunction {laidOut : LaidOutProblem} {header : Header} {reading : Code}
    {values : Label → List String} (hdeclared : laidOut.problem.DeclaredBy values)
    (hfits : laidOut.Fits)
    (hheads : Language.javaScript.dialect.Heads laidOut.problem header)
    (hreading : (readings laidOut header).mapM readingLine = .ok reading) :
    boundNames (mainFunction laidOut header reading) =
      "reader" :: (laidOut.problem.parameters.map (·.name) ++
        laidOut.problem.outputName :: loopNames laidOut.outputLayout) := by
  obtain ⟨value, -, houtput⟩ := hdeclared.output
  have houtputName : header.outputName = laidOut.problem.outputName := hheads.outputName_eq
  have hnames : (Language.javaScript.entriesOf laidOut header).map (·.written.name) =
      laidOut.problem.parameters.map (·.name) := by
    have hwritten : header.parameters.map (·.name) = laidOut.problem.parameters.map (·.name) :=
      Dialect.names_of_writes hheads.parameters
    rw [← hwritten, ← Language.map_written_entriesOf hfits hheads, List.map_map]
    rfl
  have hentries : ∀ entry ∈ Language.javaScript.entriesOf laidOut header,
      Text.isIdentifier entry.written.name.toList = true := by
    intro entry hentry
    have hmem : entry.written.name ∈ laidOut.problem.parameters.map (·.name) :=
      hnames ▸ List.mem_map_of_mem hentry
    obtain ⟨parameter, hparameter, hname⟩ := List.mem_map.mp hmem
    obtain ⟨value, hdeclares⟩ := hdeclared.exists_declares parameter hparameter
    exact hname ▸ hdeclares.isIdentifier
  rw [← Language.mainCode_javaScript hfits hheads hreading,
    boundNames_mainCode hentries (houtputName ▸ houtput.isIdentifier), hnames, houtputName]

/-- The function `main` stands at the end of a program, with the line that calls it. -/
theorem mainFunction_suffix {laidOut : LaidOutProblem} {header : Header} {reading code : Code}
    (hreading : (readings laidOut header).mapM readingLine = .ok reading)
    (h : program laidOut header = .ok code) :
    mainFunction laidOut header reading ++ ["", "main();"] <:+ code := by
  obtain ⟨found, hfound, hcode⟩ := bind_eq_ok.mp h
  rw [hreading] at hfound
  cases hfound
  cases hcode
  have hlast : Code.spaced [mainFunction laidOut header reading, ["main();"]] =
      mainFunction laidOut header reading ++ ["", "main();"] := by
    rw [Code.spaced_cons_cons, Code.spaced_singleton]
  rw [← hlast]
  exact Code.suffix_spaced (List.cons_ne_nil _ _)
    ((List.suffix_cons _ _).trans (List.suffix_append _ _))

/-- With one line for each element, `main` has the loop over the returned value. -/
theorem loop_mem_mainFunction {laidOut : LaidOutProblem} {header : Header} {reading : Code}
    (h : laidOut.outputLayout = .lines) :
    "    for (const item of " ++ header.outputName ++ ") \x7b" ∈
      mainFunction laidOut header reading := by
  have htext : "    for (const item of " ++ header.outputName ++ ") \x7b" =
      "    " ++ ("for (const item of " ++ header.outputName ++ ")" ++ " \x7b") :=
    String.toList_injective (by simp)
  have hloop : "for (const item of " ++ header.outputName ++ ")" ++ " \x7b" ∈
      writingLines header laidOut.outputLayout := by
    rw [h]
    exact List.mem_cons_self
  rw [htext, mainFunction, Code.block, Code.blockEnding]
  refine List.mem_append_left _ (List.mem_append_right _ (List.mem_map.mpr ⟨_, ?_, if_neg ?_⟩))
  · exact List.mem_append_right _ hloop
  · simp

end JavaScript

open JavaScript

/-- **What captures the returned value.** At the end of every program in JavaScript that a document
gives stands the function `main`. It binds `reader`, the parameters in order, the returned value,
and with one line for each element also `item`, in a loop over the returned value. The name of the
returned value is neither `reader` nor that of a parameter. So it is bound once, with one exception:
in that loop a returned value with the name `item` is taken for the variable. -/
theorem output_bound_once_iff {text : String} {laidOut : LaidOutProblem} {code : Code}
    (hproblem : LaidOutProblem.parse text = .ok laidOut)
    (hcode : laidOut.emit .javaScript = .ok code) :
    ∃ front main, code = front ++ (main ++ ["", "main();"]) ∧
      main.head? = some "function main() \x7b" ∧
      boundNames main = "reader" :: (laidOut.problem.parameters.map (·.name) ++
        laidOut.problem.outputName :: loopNames laidOut.outputLayout) ∧
      laidOut.problem.outputName ∉ "reader" :: laidOut.problem.parameters.map (·.name) ∧
      (laidOut.outputLayout = .lines →
        "    for (const item of " ++ laidOut.problem.outputName ++ ") \x7b" ∈ main) ∧
      ((boundNames main).count laidOut.problem.outputName = 1 ↔
        ¬ (laidOut.outputLayout = .lines ∧ laidOut.problem.outputName = "item")) := by
  obtain ⟨header, hheader, hprogram⟩ := bind_eq_ok.mp hcode
  obtain ⟨reading, hreading, -⟩ := bind_eq_ok.mp hprogram
  obtain ⟨front, hfront⟩ := mainFunction_suffix hreading hprogram
  have hheads := Dialect.heads_of_header hheader
  have hfits : laidOut.Fits := (LaidOutProblem.fits_of_parse hproblem).2
  have hdeclared := (LaidOutProblem.parse_eq_ok_iff.mp hproblem).problem
  obtain ⟨value, -, hdeclares⟩ := hdeclared.output
  have hbound := boundNames_mainFunction hdeclared hfits hheads hreading
  have houtput : header.outputName = laidOut.problem.outputName := hheads.outputName_eq
  have hreader : laidOut.problem.outputName ≠ "reader" := by
    have hreserved := hheads.not_reserved header.outputName (by simp [Header.names])
    rintro heq
    rw [houtput, heq] at hreserved
    exact hreserved (by decide)
  have hdifferent : laidOut.problem.outputName ∉
      "reader" :: laidOut.problem.parameters.map (·.name) :=
    List.not_mem_cons_of_ne_of_not_mem hreader hdeclares.not_mem
  refine ⟨front, mainFunction laidOut header reading, hfront.symm, rfl, hbound, hdifferent, ?_, ?_⟩
  · intro hlayout
    rw [← houtput]
    exact loop_mem_mainFunction hlayout
  · rw [hbound, ← List.cons_append, List.count_append, List.count_eq_zero.mpr hdifferent,
      List.count_cons_self]
    cases laidOut.outputLayout with
    | line => simp [loopNames]
    | lines =>
      by_cases hitem : laidOut.problem.outputName = "item"
      · simp [loopNames, hitem]
      · simp [loopNames, hitem, List.count_cons_of_ne (Ne.symm hitem)]

/-- A document with an output of several lines, and with a parameter of the name that the loop over
them has for its variable. -/
def rowsDocument : String :=
  "Problem Name: \"P\"\nFunction Name: f\nInput Field: item int\nOutput Field: rows int[]\n" ++
    "Output Format: lines"

/-- The problem of that document. -/
def rowsProblem : LaidOutProblem where
  problem := ⟨"P", "f", [⟨"item", .integer, 0⟩], .array .integer, "rows"⟩
  inputs := [⟨⟨"item", .integer, 0⟩, .counted⟩]
  outputLayout := .lines

/-- The parameter is hidden in the loop, which does not need it; the returned value is not. -/
theorem output_bound_once_iff_rows :
    LaidOutProblem.parse rowsDocument = .ok rowsProblem ∧
      ∃ code front main, rowsProblem.emit .javaScript = .ok code ∧
        code = front ++ (main ++ ["", "main();"]) ∧
        boundNames main = ["reader", "item", "rows", "item"] ∧
        "    for (const item of rows) \x7b" ∈ main ∧ (boundNames main).count "rows" = 1 := by
  have hproblem : LaidOutProblem.parse rowsDocument = .ok rowsProblem :=
    eq_ok_of_toOption (by decide +kernel)
  have hsome : (rowsProblem.emit .javaScript).toOption.isSome = true := by decide +kernel
  obtain ⟨code, hcode⟩ := Option.isSome_iff_exists.mp hsome
  obtain ⟨front, main, hplace, -, hbound, -, hloop, honce⟩ :=
    output_bound_once_iff hproblem (eq_ok_of_toOption hcode)
  exact ⟨hproblem, code, front, main, eq_ok_of_toOption hcode, hplace, hbound, hloop rfl,
    honce.mpr (by decide)⟩

/-- A document with an output of several lines that is called as the variable of the loop. -/
def itemDocument : String :=
  "Problem Name: \"P\"\nFunction Name: f\nInput Field: a int\nOutput Field: item int[]\n" ++
    "Output Format: lines"

/-- The problem of that document. -/
def itemProblem : LaidOutProblem where
  problem := ⟨"P", "f", [⟨"a", .integer, 0⟩], .array .integer, "item"⟩
  inputs := [⟨⟨"a", .integer, 0⟩, .counted⟩]
  outputLayout := .lines

/-- A returned value may be captured: in the program of that document the loop over `item` has
`item` for its variable. -/
theorem exists_captured_output :
    LaidOutProblem.parse itemDocument = .ok itemProblem ∧
      itemProblem.outputLayout = .lines ∧ itemProblem.problem.outputName = "item" ∧
      ∃ code, itemProblem.emit .javaScript = .ok code ∧
        ["    const item = f(a);", "    for (const item of item) \x7b",
          "        console.log(formatValue(item));"] <:+: code := by
  have hproblem : LaidOutProblem.parse itemDocument = .ok itemProblem :=
    eq_ok_of_toOption (by decide +kernel)
  have hlines : (itemProblem.emit .javaScript).toOption.any (fun code =>
      (code.drop 80).take 3 == ["    const item = f(a);", "    for (const item of item) \x7b",
        "        console.log(formatValue(item));"]) = true := by
    decide +kernel
  obtain ⟨code, hcode, hlines⟩ := (Option.any_eq_true _ _).mp hlines
  refine ⟨hproblem, rfl, rfl, code, eq_ok_of_toOption hcode, ?_⟩
  rw [← beq_iff_eq.mp hlines]
  exact (List.take_prefix _ _).isInfix.trans (List.drop_suffix _ _).isInfix

end StarterCode
