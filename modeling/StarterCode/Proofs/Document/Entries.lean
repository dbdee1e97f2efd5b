import StarterCode.Document
import StarterCode.Proofs.Text.Blank
import StarterCode.Proofs.Text.Lines
import StarterCode.Proofs.Text.Search

/-!
# What a document declares

Without their numbers, the labelled lines of a document are a list of entries, each a label and a
value. The entries are those of the stretches between line feeds, one by one: a carriage return at
the end of a line takes no part in its entry, and the stretch behind the last line feed counts as a
line or not as it pleases, for without characters there is no entry in it.

Readers look at one label at a time. `valuesOf` is what they see, the values behind that label in
the order of the lines.
-/

set_option autoImplicit false

namespace StarterCode

/-- The label and the value of a line, without its number. -/
def LabelledLine.entry (line : LabelledLine) : Label × String :=
  (line.label, line.value)

namespace Document

/-- The entry that a line makes. -/
def entryOf? (line : List Char) : Option (Label × String) :=
  (classifyLine line).map fun entry => (entry.1, String.ofList entry.2)

/-- The values behind a label, in order. -/
def valuesOf (lines : List LabelledLine) (label : Label) : List String :=
  (lines.filter (·.label == label)).map (·.value)

theorem valuesOf_eq (lines : List LabelledLine) (label : Label) :
    valuesOf lines label = ((lines.map (·.entry)).filter (·.1 == label)).map (·.2) := by
  rw [List.filter_map, List.map_map]
  rfl

theorem valuesOf_eq_nil_iff {lines : List LabelledLine} {label : Label} :
    valuesOf lines label = [] ↔ lines.filter (·.label == label) = [] := by
  rw [valuesOf, List.map_eq_nil_iff]

theorem valuesOf_eq_singleton_iff {lines : List LabelledLine} {label : Label} {value : String} :
    valuesOf lines label = [value] ↔
      ∃ line, lines.filter (·.label == label) = [line] ∧ line.value = value :=
  List.map_eq_singleton_iff

/-! ## Carriage returns -/

/-- A character that does not occur in a prefix may stand behind the text. -/
theorem isPrefixOf?_concat {c : Char} {pre : List Char} (h : c ∉ pre) (text : List Char) :
    pre.isPrefixOf? (text ++ [c]) = (pre.isPrefixOf? text).map (· ++ [c]) := by
  apply Text.isPrefixOf?_append
  intro d hd
  rw [← Option.some.inj hd]
  exact h

theorem findSome?_isPrefixOf?_concat {c : Char} {pres : List (List Char)}
    (h : ∀ pre ∈ pres, c ∉ pre) (text : List Char) :
    pres.findSome? (·.isPrefixOf? (text ++ [c])) =
      (pres.findSome? (·.isPrefixOf? text)).map (· ++ [c]) := by
  induction pres with
  | nil => rfl
  | cons pre pres ih =>
    rw [List.findSome?_cons, List.findSome?_cons, isPrefixOf?_concat (h pre List.mem_cons_self)]
    cases pre.isPrefixOf? text with
    | none => exact ih fun other hother => h other (List.mem_cons_of_mem _ hother)
    | some rest => rfl

/-- The second text is the first with a carriage return behind it, or both are empty. -/
def Returned (text returned : List Char) : Prop :=
  returned = text ++ ['\r'] ∨ text = [] ∧ returned = []

theorem Returned.dropWhile {text returned : List Char} (h : Returned text returned)
    (p : Char → Bool) : Returned (text.dropWhile p) (returned.dropWhile p) := by
  rcases h with rfl | ⟨rfl, rfl⟩
  · rw [List.dropWhile_append]
    split
    · next hempty =>
      rw [List.isEmpty_iff.mp hempty, List.dropWhile_cons]
      split
      · exact .inr ⟨rfl, rfl⟩
      · exact .inl rfl
    · exact .inl rfl
  · exact .inr ⟨rfl, rfl⟩

/-- A prefix is found in both texts or in neither. -/
theorem Returned.isPrefixOf? {text returned pre : List Char} (h : Returned text returned)
    (hpre : '\r' ∉ pre) :
    pre.isPrefixOf? text = none ∧ pre.isPrefixOf? returned = none ∨
      ∃ rest rest', pre.isPrefixOf? text = some rest ∧ pre.isPrefixOf? returned = some rest' ∧
        Returned rest rest' := by
  rcases h with rfl | ⟨rfl, rfl⟩
  · rw [isPrefixOf?_concat hpre]
    cases pre.isPrefixOf? text with
    | none => exact .inl ⟨rfl, rfl⟩
    | some rest => exact .inr ⟨rest, _, rfl, rfl, .inl rfl⟩
  · cases pre with
    | nil => exact .inr ⟨[], [], rfl, rfl, .inr ⟨rfl, rfl⟩⟩
    | cons c pre => exact .inl ⟨rfl, rfl⟩

theorem Returned.dropPrefix {text returned pre : List Char} (h : Returned text returned)
    (hpre : '\r' ∉ pre) : Returned (Text.dropPrefix pre text) (Text.dropPrefix pre returned) := by
  rw [Text.dropPrefix, Text.dropPrefix]
  rcases h.isPrefixOf? hpre with ⟨htext, hreturned⟩ | ⟨rest, rest', htext, hreturned, hrest⟩
  · rw [htext, hreturned]
    exact h
  · rw [htext, hreturned]
    exact hrest

theorem Returned.withoutBullet {text returned : List Char} (h : Returned text returned) :
    Returned (withoutBullet text) (withoutBullet returned) := by
  rcases h with rfl | ⟨rfl, rfl⟩
  · rw [Document.withoutBullet.eq_def (text ++ ['\r']), Document.withoutBullet,
      findSome?_isPrefixOf?_concat (by decide)]
    cases bullets.findSome? (·.isPrefixOf? text) with
    | none => exact .inl rfl
    | some rest =>
      -- where only blanks are behind the bullet, the carriage return goes with them
      exact Returned.dropWhile (.inl rfl) Text.isBlank
  · exact .inr ⟨rfl, rfl⟩

theorem Returned.undecorated {text returned : List Char} (h : Returned text returned) :
    Returned (undecorated text) (undecorated returned) := by
  have hbody : Returned (Text.trimLeft ((Text.trimLeft text).dropWhile (· == '#')))
      (Text.trimLeft ((Text.trimLeft returned).dropWhile (· == '#'))) :=
    ((h.dropWhile Text.isBlank).dropWhile (· == '#')).dropWhile Text.isBlank
  exact hbody.withoutBullet.dropPrefix (by decide)

theorem Returned.trim_eq {text returned : List Char} (h : Returned text returned) :
    Text.trim returned = Text.trim text := by
  rcases h with rfl | ⟨rfl, rfl⟩
  · exact Text.trim_append_of_isBlank text (List.forall_mem_singleton.mpr rfl)
  · rfl

theorem Returned.valueOf?_eq {text returned : List Char} (h : Returned text returned)
    (label : Label) : valueOf? label returned = valueOf? label text := by
  have hlabel : '\r' ∉ label.text.toList := by cases label <;> decide
  have hbold : '\r' ∉ bold := by decide
  rw [valueOf?, valueOf?]
  rcases h.isPrefixOf? hlabel with ⟨htext, hreturned⟩ | ⟨rest, rest', htext, hreturned, hrest⟩
  · rw [htext, hreturned]
  · have hcolon : '\r' ∉ [':'] := by decide
    rcases (hrest.dropPrefix hbold).isPrefixOf? hcolon with
      ⟨hfirst, hsecond⟩ | ⟨value, value', hfirst, hsecond, hvalue⟩
    · simp only [htext, hreturned, Option.bind_eq_bind, Option.bind_some, hfirst, hsecond]
    · simp only [htext, hreturned, Option.bind_eq_bind, Option.bind_some, hfirst, hsecond,
        (hvalue.dropPrefix hbold).trim_eq]

/-- A carriage return at the end of a line takes no part in its entry. -/
theorem entryOf?_dropReturn (line : List Char) :
    entryOf? (Text.dropReturn line) = entryOf? line := by
  by_cases h : line.getLast? = some '\r'
  · rw [Text.dropReturn, if_pos h]
    have hreturned : Returned line.dropLast line := .inl (List.dropLast_append_getLast? _ h).symm
    rw [entryOf?, entryOf?, classifyLine, classifyLine]
    simp only [hreturned.undecorated.valueOf?_eq]
  · rw [Text.dropReturn, if_neg h]

/-! ## The numbers of lines -/

/-- The labelled lines are those that carry a label, numbered by their places. -/
theorem mem_labelledFrom {number : Nat} {lines : List (List Char)} {line : LabelledLine} :
    line ∈ labelledFrom number lines ↔ ∃ i source, lines[i]? = some source ∧
      classifyLine source = some (line.label, line.value.toList) ∧ line.line = number + i := by
  induction lines generalizing number with
  | nil => simp [labelledFrom]
  | cons first rest ih =>
    -- the first line has the place 0, and the places of the others are one more than in the rest
    have hsplit : (∃ i source, (first :: rest)[i]? = some source ∧
        classifyLine source = some (line.label, line.value.toList) ∧ line.line = number + i) ↔
        (classifyLine first = some (line.label, line.value.toList) ∧ line.line = number) ∨
          line ∈ labelledFrom (number + 1) rest := by
      rw [ih]
      constructor
      · rintro ⟨i, source, hsource, hclassify, hline⟩
        cases i with
        | zero =>
          cases hsource
          exact .inl ⟨hclassify, hline⟩
        | succ i => exact .inr ⟨i, source, hsource, hclassify, by omega⟩
      · rintro (⟨hclassify, hline⟩ | ⟨i, source, hsource, hclassify, hline⟩)
        · exact ⟨0, first, rfl, hclassify, hline⟩
        · exact ⟨i + 1, source, hsource, hclassify, by omega⟩
    rw [hsplit, labelledFrom]
    cases hfirst : classifyLine first with
    | none => simp
    | some entry =>
      obtain ⟨label, value⟩ := entry
      rw [List.mem_cons]
      apply or_congr_left
      constructor
      · rintro rfl
        rw [String.toList_ofList]
        exact ⟨rfl, rfl⟩
      · rintro ⟨heq, hline⟩
        cases heq
        rw [String.ofList_toList, ← hline]

theorem labelledFrom_append (number : Nat) (front rest : List (List Char)) :
    labelledFrom number (front ++ rest) =
      labelledFrom number front ++ labelledFrom (number + front.length) rest := by
  induction front generalizing number with
  | nil => rfl
  | cons line front ih =>
    have hlength : number + 1 + front.length = number + (line :: front).length := by
      rw [List.length_cons]
      omega
    rw [List.cons_append, labelledFrom, labelledFrom, ih, hlength]
    cases classifyLine line with
    | none => rfl
    | some entry => rfl

theorem labelledFrom_cons (number : Nat) (line : List Char) (rest : List (List Char)) :
    labelledFrom number (line :: rest) =
      ((entryOf? line).map fun entry => ⟨entry.1, entry.2, number⟩).toList ++
        labelledFrom (number + 1) rest := by
  rw [labelledFrom, entryOf?]
  cases classifyLine line <;> rfl

/-- Lines with the same entries are labelled in the same way. -/
theorem labelledFrom_congr (number : Nat) {lines lines' : List (List Char)}
    (h : lines.map entryOf? = lines'.map entryOf?) :
    labelledFrom number lines = labelledFrom number lines' := by
  induction lines generalizing lines' number with
  | nil =>
    rw [List.map_nil, eq_comm, List.map_eq_nil_iff] at h
    rw [h]
  | cons line lines ih =>
    obtain ⟨line', rest', rfl, hline, hrest⟩ := List.map_eq_cons_iff.mp h.symm
    rw [labelledFrom_cons, labelledFrom_cons, hline, ih (number + 1) hrest.symm]

/-! ## The entries of a text -/

/-- **The labelled lines of a text** are those of the stretches between its line feeds, numbered by
their places. -/
theorem labelledLines_eq (text : String) :
    labelledLines text = labelledFrom 1 (Text.pieces '\n' text.toList) := by
  have hne := Text.pieces_ne_nil '\n' text.toList
  obtain ⟨pieces, last, hpieces⟩ : ∃ pieces last, Text.pieces '\n' text.toList = pieces ++ [last] :=
    ⟨_, _, (List.dropLast_append_getLast hne).symm⟩
  have hreturn : (pieces.map Text.dropReturn).map entryOf? = pieces.map entryOf? := by
    rw [List.map_map]
    exact List.map_congr_left fun piece _ => entryOf?_dropReturn piece
  -- the last stretch is no line if it is empty, but then it has no entry either
  have hlast : ∀ number, labelledFrom number (if last = [] then [] else [last]) =
      labelledFrom number [last] := by
    intro number
    split
    · next hempty =>
      rw [hempty]
      rfl
    · rfl
  rw [labelledLines, Text.lines, hpieces, List.dropLast_concat, List.getLast?_concat,
    Option.getD_some, labelledFrom_append, labelledFrom_append, labelledFrom_congr 1 hreturn,
    List.length_map, hlast]

theorem map_entry_labelledFrom (number : Nat) (lines : List (List Char)) :
    (labelledFrom number lines).map (·.entry) = lines.filterMap entryOf? := by
  induction lines generalizing number with
  | nil => rfl
  | cons line lines ih =>
    rw [labelledFrom, List.filterMap_cons, entryOf?]
    cases hline : classifyLine line with
    | none => exact ih (number + 1)
    | some entry => exact congrArg (_ :: ·) (ih (number + 1))

/-- **The entries of a text** are those of the stretches between its line feeds. -/
theorem map_entry_labelledLines (text : String) :
    (labelledLines text).map (·.entry) = (Text.pieces '\n' text.toList).filterMap entryOf? := by
  rw [labelledLines_eq, map_entry_labelledFrom]

theorem trim_of_valueOf? {label : Label} {body value : List Char}
    (h : valueOf? label body = some value) : Text.trim value = value := by
  obtain ⟨rest, -, h⟩ := Option.bind_eq_some_iff.mp h
  obtain ⟨rest', -, h⟩ := Option.bind_eq_some_iff.mp h
  cases h
  exact Text.trim_trim _

/-- Values are trimmed. -/
theorem trim_value {text : String} {line : LabelledLine} (h : line ∈ labelledLines text) :
    Text.trim line.value.toList = line.value.toList := by
  have hentry : line.entry ∈ (Text.pieces '\n' text.toList).filterMap entryOf? := by
    rw [← map_entry_labelledLines]
    exact List.mem_map_of_mem h
  obtain ⟨piece, -, hpiece⟩ := List.mem_filterMap.mp hentry
  obtain ⟨entry, hclassify, heq⟩ := Option.map_eq_some_iff.mp hpiece
  obtain ⟨label, -, hlabel⟩ := List.exists_of_findSome?_eq_some hclassify
  obtain ⟨value, hvalue, rfl⟩ := Option.map_eq_some_iff.mp hlabel
  have hline : line.value = String.ofList value := (congrArg Prod.snd heq).symm
  rw [hline, String.toList_ofList]
  exact trim_of_valueOf? hvalue

/-! ## Entries written out -/

/-- The line of an entry, without decoration. -/
def lineOf (entry : Label × String) : String :=
  entry.1.text ++ ": " ++ entry.2

/-- The text that has a line for each entry, with line feeds between them. -/
def written (entries : List (Label × String)) : String :=
  "\n".intercalate (entries.map lineOf)

theorem entryOf?_append (label : Label) (value : List Char) :
    entryOf? (label.text.toList ++ ':' :: ' ' :: value) =
      some (label, String.ofList (Text.trim value)) := by
  -- no label begins with another, so the search stops at the one that is written
  cases label <;> rfl

theorem entryOf?_lineOf (entry : Label × String) :
    entryOf? (lineOf entry).toList =
      some (entry.1, String.ofList (Text.trim entry.2.toList)) := by
  rw [lineOf, String.toList_append, String.toList_append, List.append_assoc]
  exact entryOf?_append entry.1 entry.2.toList

theorem not_mem_lineOf {entry : Label × String} (h : '\n' ∉ entry.2.toList) :
    '\n' ∉ (lineOf entry).toList := by
  have hlabel : '\n' ∉ entry.1.text.toList := by cases entry.1 <;> decide
  have hcolon : '\n' ∉ ": ".toList := by decide
  rw [lineOf, String.toList_append, String.toList_append, List.mem_append, List.mem_append]
  exact not_or.mpr ⟨not_or.mpr ⟨hlabel, hcolon⟩, h⟩

/-- **What is written is declared.** The entries of a text that is written line by line are those
that were written, with their values trimmed. A line feed at the end makes no difference. -/
theorem map_entry_written {entries : List (Label × String)}
    (h : ∀ entry ∈ entries, '\n' ∉ entry.2.toList) :
    (labelledLines (written entries)).map (·.entry) =
        entries.map (fun entry => (entry.1, String.ofList (Text.trim entry.2.toList))) ∧
      (labelledLines (written entries ++ "\n")).map (·.entry) =
        entries.map fun entry => (entry.1, String.ofList (Text.trim entry.2.toList)) := by
  have hentries : (entries.map fun entry => (lineOf entry).toList).filterMap entryOf? =
      entries.map fun entry => (entry.1, String.ofList (Text.trim entry.2.toList)) := by
    rw [List.filterMap_map, ← List.filterMap_eq_map]
    exact congrArg (List.filterMap · entries) (funext entryOf?_lineOf)
  have hwritten : (Text.pieces '\n' (written entries).toList).filterMap entryOf? =
      entries.map fun entry => (entry.1, String.ofList (Text.trim entry.2.toList)) := by
    rw [← hentries, written, String.toList_intercalate, List.map_map]
    cases entries with
    | nil => rfl
    | cons entry entries =>
      refine congrArg (List.filterMap entryOf?) (Text.pieces_intercalate (by simp) ?_)
      intro text htext
      obtain ⟨entry, hentry, rfl⟩ := List.mem_map.mp htext
      exact not_mem_lineOf (h entry hentry)
  refine ⟨by rw [map_entry_labelledLines, hwritten], ?_⟩
  rw [map_entry_labelledLines, String.toList_append]
  have hend : Text.pieces '\n' ((written entries).toList ++ "\n".toList) =
      Text.pieces '\n' (written entries).toList ++ [[]] :=
    Text.pieces_append_cons '\n' (written entries).toList []
  have hnone : ([[]] : List (List Char)).filterMap entryOf? = [] := rfl
  rw [hend, List.filterMap_append, hwritten, hnone, List.append_nil]

/-- The values in a text that is written line by line are those that were written, trimmed. -/
theorem valuesOf_written {entries : List (Label × String)}
    (h : ∀ entry ∈ entries, '\n' ∉ entry.2.toList) (label : Label) :
    valuesOf (labelledLines (written entries)) label =
        (entries.filter (·.1 == label)).map
          (fun entry => String.ofList (Text.trim entry.2.toList)) ∧
      valuesOf (labelledLines (written entries ++ "\n")) label =
        (entries.filter (·.1 == label)).map
          fun entry => String.ofList (Text.trim entry.2.toList) := by
  obtain ⟨hwritten, hended⟩ := map_entry_written h
  rw [valuesOf_eq, valuesOf_eq, hwritten, hended, List.filter_map, List.map_map]
  exact ⟨rfl, rfl⟩

end Document

end StarterCode
