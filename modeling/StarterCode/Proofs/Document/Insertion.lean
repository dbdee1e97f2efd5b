import StarterCode.Proofs.Document.Entries

/-!
# A line put in

A text that is cut at a line end may get one more line there. The labelled lines in front of the cut
stay as they are, those behind it are pushed down by one, and the new line is seen only under its
own label. So for every other label the lines are the same up to their numbers
(`filter_labelledLines_insert`).

The labelled lines of a text are made while the lines are counted, so both halves of the argument
are about the counter: it runs through the lines in front, and it may start higher.
-/

set_option autoImplicit false

namespace StarterCode

/-- The line under a number of its own. -/
def LabelledLine.renumbered (number : Nat → Nat) (line : LabelledLine) : LabelledLine where
  label := line.label
  value := line.value
  line := number line.line

/-- The number of a line after one more line is put in behind the first `count`. -/
def pushedBehind (count line : Nat) : Nat :=
  if line ≤ count then line else line + 1

namespace Text

theorem length_pieces (sep : Char) (text : List Char) :
    (pieces sep text).length = text.count sep + 1 := by
  induction text with
  | nil => rfl
  | cons c text ih =>
    rw [pieces]
    by_cases hc : c = sep
    · rw [if_pos hc, hc, List.length_cons, ih, List.count_cons_self]
    · rw [if_neg hc, List.count_cons_of_ne hc, ← ih]
      cases hpieces : pieces sep text with
      | nil => exact absurd hpieces (pieces_ne_nil sep text)
      | cons first others => rfl

/-- A line feed ends the lines in front of it, whatever they hold. -/
theorem lines_append_feed (front rest : List Char) :
    lines (front ++ '\n' :: rest) = (pieces '\n' front).map dropReturn ++ lines rest := by
  have hne := pieces_ne_nil '\n' rest
  rw [lines, pieces_append_cons, List.dropLast_append_of_ne_nil hne, List.map_append,
    List.getLast?_append_of_ne_nil _ hne, List.append_assoc, lines]

end Text

namespace Document

/-- Counting from a later number pushes every line down. -/
theorem labelledFrom_add (number count : Nat) (lines : List (List Char)) :
    labelledFrom (number + count) lines =
      (labelledFrom number lines).map (·.renumbered (· + count)) := by
  induction lines generalizing number with
  | nil => rfl
  | cons line lines ih =>
    rw [labelledFrom, labelledFrom, Nat.add_right_comm, ih (number + 1)]
    cases classifyLine line with
    | none => rfl
    | some entry => rfl

/-- The numbers begin with the first one and are as many as the lines. -/
theorem line_of_mem_labelledFrom {number : Nat} {lines : List (List Char)} {line : LabelledLine}
    (h : line ∈ labelledFrom number lines) :
    number ≤ line.line ∧ line.line < number + lines.length := by
  obtain ⟨i, source, hsource, -, hline⟩ := mem_labelledFrom.mp h
  obtain ⟨hi, -⟩ := List.getElem?_eq_some_iff.mp hsource
  omega

/-- Lines are pushed down from the one behind the first `count` on. -/
theorem labelledFrom_pushed {front : List (List Char)} {count : Nat} (hcount : front.length = count)
    (rest : List (List Char)) :
    (labelledFrom 1 (front ++ rest)).map (·.renumbered (pushedBehind count)) =
      labelledFrom 1 front ++ labelledFrom (count + 2) rest := by
  have hfront : (labelledFrom 1 front).map (·.renumbered (pushedBehind count)) =
      labelledFrom 1 front := by
    rw [List.map_congr_left (g := id) ?_, List.map_id]
    intro line hline
    have hle : line.line ≤ count := by
      have hbounds := line_of_mem_labelledFrom hline
      omega
    rw [LabelledLine.renumbered, pushedBehind, if_pos hle, id]
  have hrest : (labelledFrom (1 + count) rest).map (·.renumbered (pushedBehind count)) =
      labelledFrom (count + 2) rest := by
    have hnumber : count + 2 = 1 + count + 1 := by omega
    rw [hnumber, labelledFrom_add (1 + count) 1]
    refine List.map_congr_left fun line hline => ?_
    have hgt : ¬ line.line ≤ count := by
      have hbounds := line_of_mem_labelledFrom hline
      omega
    rw [LabelledLine.renumbered, LabelledLine.renumbered, pushedBehind, if_neg hgt]
  rw [labelledFrom_append, List.map_append, hfront, hcount, hrest]

/-- A line is labelled in the same way wherever it stands. -/
theorem exists_labelled_alone {line : String} (hline : '\n' ∉ line.toList) {number : Nat}
    {labelled : LabelledLine} (h : labelled ∈ labelledFrom number [Text.dropReturn line.toList]) :
    ∃ alone ∈ labelledLines line, alone.label = labelled.label := by
  have hentry : labelled.entry ∈ [Text.dropReturn line.toList].filterMap entryOf? := by
    rw [← map_entry_labelledFrom number]
    exact List.mem_map_of_mem h
  have halone : labelled.entry ∈ (labelledLines line).map (·.entry) := by
    rw [map_entry_labelledLines, Text.pieces_of_not_mem hline]
    rw [List.filterMap_cons, entryOf?_dropReturn, ← List.filterMap_cons] at hentry
    exact hentry
  obtain ⟨alone, hmem, heq⟩ := List.mem_map.mp halone
  exact ⟨alone, hmem, congrArg Prod.fst heq⟩

/-- **A line put in is seen under its own label alone.** Under any other label the text has the same
lines as before, those behind the new line pushed down by one. -/
theorem filter_labelledLines_insert {a line b : String} {label : Label}
    (hline : '\n' ∉ line.toList) (hlabel : ∀ alone ∈ labelledLines line, alone.label ≠ label) :
    (labelledLines (a ++ "\n" ++ line ++ "\n" ++ b)).filter (·.label == label) =
      ((labelledLines (a ++ "\n" ++ b)).map
        (·.renumbered (pushedBehind (a.toList.count '\n' + 1)))).filter (·.label == label) := by
  obtain ⟨front, hfront⟩ : ∃ front, (Text.pieces '\n' a.toList).map Text.dropReturn = front :=
    ⟨_, rfl⟩
  have hcount : front.length = a.toList.count '\n' + 1 := by
    rw [← hfront, List.length_map, Text.length_pieces]
  have hbefore : Text.lines (a ++ "\n" ++ b).toList = front ++ Text.lines b.toList := by
    rw [← hfront, ← Text.lines_append_feed]
    simp
  have hafter : Text.lines (a ++ "\n" ++ line ++ "\n" ++ b).toList =
      front ++ ([Text.dropReturn line.toList] ++ Text.lines b.toList) := by
    rw [List.singleton_append, ← Text.lines_append_cons hline, ← hfront, ← Text.lines_append_feed]
    simp
  have hnone : ∀ number,
      (labelledFrom number [Text.dropReturn line.toList]).filter (·.label == label) = [] := by
    intro number
    refine List.filter_eq_nil_iff.mpr fun labelled hmem heq => ?_
    obtain ⟨alone, halone, hsame⟩ := exists_labelled_alone hline hmem
    exact hlabel alone halone (hsame.trans (beq_iff_eq.mp heq))
  have hnumber : 1 + (a.toList.count '\n' + 1) + [Text.dropReturn line.toList].length =
      a.toList.count '\n' + 1 + 2 := by
    rw [List.length_singleton]
    omega
  rw [labelledLines, labelledLines, hbefore, hafter, labelledFrom_pushed hcount,
    labelledFrom_append, labelledFrom_append, hcount, hnumber, List.filter_append,
    List.filter_append, hnone, List.nil_append, List.filter_append]

end Document

end StarterCode
