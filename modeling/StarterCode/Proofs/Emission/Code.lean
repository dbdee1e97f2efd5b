import StarterCode.Code
import StarterCode.Proofs.Text.Search

/-!
# Parts of code

A file is put together from pieces with empty lines between them. Each piece is found again in the
whole, as lines that stand together, and lines that stand together do so in the text as well. A part
that leaves lines out has fewer bytes.
-/

set_option autoImplicit false

namespace StarterCode.Code

/-- Pieces are put together one after the other. -/
theorem spaced_cons_cons (first second : Code) (rest : List Code) :
    spaced (first :: second :: rest) = first ++ "" :: spaced (second :: rest) := by
  simp [spaced, List.intercalate]

theorem spaced_singleton (piece : Code) : spaced [piece] = piece := by
  simp [spaced, List.intercalate]

/-- The first piece comes first in the whole. -/
theorem prefix_spaced_cons (piece : Code) (pieces : List Code) :
    piece <+: spaced (piece :: pieces) := by
  cases pieces with
  | nil => exact ⟨[], by rw [spaced_singleton, List.append_nil]⟩
  | cons next rest =>
    rw [spaced_cons_cons]
    exact List.prefix_append _ _

/-- The last pieces come last in the whole. -/
theorem suffix_spaced {rest pieces : List Code} (hne : rest ≠ []) (h : rest <:+ pieces) :
    spaced rest <:+ spaced pieces := by
  obtain ⟨front, rfl⟩ := h
  induction front with
  | nil => exact List.suffix_refl _
  | cons first front ih =>
    obtain ⟨second, others, hothers⟩ :=
      List.exists_cons_of_ne_nil (List.append_ne_nil_of_right_ne_nil front hne)
    rw [List.cons_append, hothers, spaced_cons_cons, ← hothers]
    exact ih.trans ((List.suffix_cons _ _).trans (List.suffix_append _ _))

/-- Behind other code, the first piece is found together with the empty line in front of it. -/
theorem infix_append_spaced (front piece : Code) (pieces : List Code) :
    "" :: piece <:+: front ++ [""] ++ spaced (piece :: pieces) := by
  obtain ⟨after, hafter⟩ := prefix_spaced_cons piece pieces
  exact ⟨front, after, by simp [← hafter]⟩

/-- Each piece is found in the whole. -/
theorem infix_spaced {piece : Code} : ∀ {pieces : List Code}, piece ∈ pieces →
    piece <:+: spaced pieces
  | [first], h => by
    obtain rfl := List.mem_singleton.mp h
    exact ⟨[], [], by rw [spaced_singleton, List.append_nil, List.nil_append]⟩
  | first :: second :: rest, h => by
    rcases List.mem_cons.mp h with rfl | hrest
    · exact (prefix_spaced_cons _ _).isInfix
    · obtain ⟨before, after, heq⟩ := infix_spaced hrest
      refine ⟨first ++ "" :: before, after, ?_⟩
      simp [spaced_cons_cons, ← heq]

/-- A piece behind the first one is found in the whole, which has more lines. -/
theorem sublist_spaced_cons (first : Code) {piece : Code} {pieces : List Code}
    (h : piece ∈ pieces) :
    piece.Sublist (spaced (first :: pieces)) ∧
      piece.length < (spaced (first :: pieces)).length := by
  obtain ⟨second, rest, rfl⟩ := List.exists_cons_of_ne_nil (List.ne_nil_of_mem h)
  have hpiece : piece.Sublist (spaced (second :: rest)) := (infix_spaced h).sublist
  have hle := hpiece.length_le
  rw [spaced_cons_cons]
  refine ⟨(hpiece.cons "").trans (List.sublist_append_right _ _), ?_⟩
  rw [List.length_append, List.length_cons]
  omega

/-- A block begins with its header. -/
theorem prefix_block (header : String) (body : Code) :
    [header ++ " \x7b"] <+: block header body := by
  rw [block, blockEnding, List.append_assoc]
  exact List.prefix_append _ _

theorem text_append (code code' : Code) : text (code ++ code') = text code ++ text code' := by
  rw [text, List.map_append, String.join_append]
  rfl

/-- A line end stands behind the first line, and then come the others. -/
theorem text_cons (line : String) (rest : Code) :
    text (line :: rest) = line ++ "\n" ++ text rest := by
  rw [← List.singleton_append, text_append]
  simp [text]

theorem toList_text_cons (line : String) (rest : Code) :
    (text (line :: rest)).toList = line.toList ++ '\n' :: (text rest).toList := by
  rw [text_cons]
  simp

/-- Lines that stand together in code stand together in its text. -/
theorem text_of_infix {part code : Code} (h : part <:+: code) :
    ∃ before after, text code = before ++ text part ++ after := by
  obtain ⟨before, after, rfl⟩ := h
  exact ⟨text before, text after, by rw [text_append, text_append]⟩

/-- A line of the code is found in its text. -/
theorem infix_text_of_mem {line : String} {code : Code} (h : line ∈ code) :
    line.toList <:+: (text code).toList := by
  obtain ⟨before, after, rfl⟩ := List.append_of_mem h
  refine ⟨(text before).toList, '\n' :: (text after).toList, ?_⟩
  rw [text_append, String.toList_append, toList_text_cons, List.append_assoc]

/-- The lines of a block are moved to the right. -/
theorem mem_block_of_mem {line header : String} {body : Code} (hne : line ≠ "") (h : line ∈ body) :
    "    " ++ line ∈ block header body := by
  have hline : "    " ++ line ∈ indented body := by
    refine List.mem_map.mpr ⟨line, h, ?_⟩
    rw [if_neg (by simpa using hne)]
  exact List.mem_append_left _ (List.mem_append_right _ hline)

/-! ## Sizes -/

/-- A line has its own bytes and a line end. -/
theorem utf8ByteSize_text_cons (line : String) (rest : Code) :
    (text (line :: rest)).utf8ByteSize = line.utf8ByteSize + 1 + (text rest).utf8ByteSize := by
  have hend : "\n".utf8ByteSize = 1 := by decide
  rw [text_cons, String.utf8ByteSize_append, String.utf8ByteSize_append, hend]

/-- Each line that a part leaves out counts at least one byte. -/
theorem utf8ByteSize_text_of_sublist {part code : Code} (h : part.Sublist code) :
    (text part).utf8ByteSize + code.length ≤ (text code).utf8ByteSize + part.length := by
  induction h with
  | slnil => exact Nat.le_refl _
  | cons line _ ih =>
    rw [utf8ByteSize_text_cons, List.length_cons]
    omega
  | cons_cons line _ ih =>
    rw [utf8ByteSize_text_cons, utf8ByteSize_text_cons, List.length_cons, List.length_cons]
    omega

/-! ## Counting

A word without line feeds does not reach from one line into the next, so it is counted line by line.
-/

section Counting

variable {word : List Char}

/-- A word without line feeds is counted in each line. -/
theorem count_text_cons (hne : word ≠ []) (hfeed : '\n' ∉ word) (line : String) (rest : Code) :
    Text.count word (text (line :: rest)).toList =
      Text.count word line.toList + Text.count word (text rest).toList := by
  rw [toList_text_cons, Text.count_append_cons hne hfeed]

theorem count_text_append (hne : word ≠ []) (hfeed : '\n' ∉ word) (front back : Code) :
    Text.count word (text (front ++ back)).toList =
      Text.count word (text front).toList + Text.count word (text back).toList := by
  induction front with
  | nil =>
    have hnone : Text.count word (text []).toList = 0 :=
      Text.count_eq_zero_iff.mpr fun h => hne (List.infix_nil.mp h)
    rw [List.nil_append, hnone, Nat.zero_add]
  | cons line front ih =>
    rw [List.cons_append, count_text_cons hne hfeed, count_text_cons hne hfeed, ih, Nat.add_assoc]

theorem count_text_eq_zero (hne : word ≠ []) (hfeed : '\n' ∉ word) {code : Code}
    (h : ∀ line ∈ code, ¬ word <:+: line.toList) : Text.count word (text code).toList = 0 := by
  induction code with
  | nil => exact Text.count_eq_zero_iff.mpr fun hinfix => hne (List.infix_nil.mp hinfix)
  | cons line code ih =>
    have hline := Text.count_eq_zero_iff.mpr (h line List.mem_cons_self)
    have hothers := ih fun other hother => h other (List.mem_cons_of_mem _ hother)
    rw [count_text_cons hne hfeed, hline, hothers]

end Counting

/-! ## Single lines -/

/-- A line of the whole is a line of a piece or an empty one. -/
theorem mem_spaced {line : String} (hne : line ≠ "") : ∀ {pieces : List Code},
    line ∈ spaced pieces ↔ ∃ piece ∈ pieces, line ∈ piece
  | [] => by simp [spaced, List.intercalate]
  | [piece] => by simp [spaced_singleton]
  | first :: second :: pieces => by
    rw [spaced_cons_cons, List.mem_append, List.mem_cons, mem_spaced hne]
    simp [hne]

/-- Of lines that are not empty, the whole has those of its pieces. -/
theorem filter_spaced {p : String → Bool} (hempty : p "" = false) : ∀ pieces : List Code,
    (spaced pieces).filter p = pieces.flatMap (List.filter p)
  | [] => rfl
  | [piece] => by simp [spaced_singleton]
  | first :: second :: pieces => by
    rw [spaced_cons_cons, List.filter_append, List.filter_cons_of_neg (by simp [hempty]),
      filter_spaced hempty (second :: pieces)]
    exact List.flatMap_cons.symm

/-- The line begins at the margin, with something else than a closing brace. -/
def AtMargin (line : String) : Prop :=
  ∃ c, line.toList.head? = some c ∧ c ≠ ' ' ∧ c ≠ '\x7d'

theorem AtMargin.ne_empty {line : String} (h : AtMargin line) : line ≠ "" := by
  obtain ⟨c, hc, -⟩ := h
  rintro rfl
  cases hc

/-- What is indented does not begin at the margin. -/
theorem AtMargin.not_mem_indented {line : String} (h : AtMargin line) (code : Code) :
    line ∉ indented code := by
  intro hmem
  obtain ⟨inner, -, hline⟩ := List.mem_map.mp hmem
  obtain ⟨c, hc, hblank, -⟩ := h
  split at hline
  · next hempty =>
    rw [← hline, String.isEmpty_iff.mp hempty] at hc
    cases hc
  · rw [← hline, String.toList_append] at hc
    exact hblank (Option.some.inj hc).symm

/-- The only line of a block that begins at the margin is the first one. -/
theorem AtMargin.eq_of_mem_blockEnding {line header closing : String} {body : Code}
    (h : AtMargin line) (hmem : line ∈ blockEnding header body closing) :
    line = header ++ " \x7b" := by
  rw [blockEnding, List.mem_append, List.mem_append, List.mem_singleton, List.mem_singleton] at hmem
  rcases hmem with (hmem | hmem) | hmem
  · exact hmem
  · exact absurd hmem (h.not_mem_indented body)
  · obtain ⟨c, hc, -, hbrace⟩ := h
    rw [hmem, String.toList_append] at hc
    exact absurd (Option.some.inj hc).symm hbrace

end StarterCode.Code
