import Mathlib.Data.List.Infix
import StarterCode.Text.Lines

/-!
# Pieces of joined texts

Cutting a text at a separator undoes putting the separator between texts, as long as the separator
does not occur in them.

The other way round, a piece of a text has a place in it: the pieces before it stand in front, each
with its separator, and behind it comes a separator or nothing. For a line the same holds up to a
carriage return, and a word that occurs in front of a line occurs in one of the lines before it.
What is behind a line has the lines that follow it (`Behind`).
-/

set_option autoImplicit false

namespace StarterCode.Text

/-- The pieces of two texts with a separator in between are those of both. -/
theorem pieces_append_cons (sep : Char) (front rest : List Char) :
    pieces sep (front ++ sep :: rest) = pieces sep front ++ pieces sep rest := by
  induction front with
  | nil => simp [pieces]
  | cons c front ih =>
    rw [List.cons_append, pieces, pieces, ih]
    split
    · rfl
    · cases hpieces : pieces sep front with
      | nil => exact absurd hpieces (pieces_ne_nil sep front)
      | cons piece others => rfl

/-- A text without the separator is one piece. -/
theorem pieces_of_not_mem {sep : Char} {text : List Char} (h : sep ∉ text) :
    pieces sep text = [text] := by
  induction text with
  | nil => rfl
  | cons c rest ih =>
    rw [List.mem_cons, not_or] at h
    rw [pieces, if_neg fun heq => h.1 heq.symm, ih h.2]

theorem pieces_intercalate {sep : Char} {texts : List (List Char)} (hne : texts ≠ [])
    (h : ∀ text ∈ texts, sep ∉ text) : pieces sep ([sep].intercalate texts) = texts := by
  induction texts with
  | nil => exact absurd rfl hne
  | cons text texts ih =>
    have htext : sep ∉ text := h text List.mem_cons_self
    cases texts with
    | nil => rw [List.intercalate_singleton, pieces_of_not_mem htext]
    | cons next texts =>
      rw [List.intercalate_cons_cons, List.append_assoc, List.singleton_append, pieces_append_cons,
        pieces_of_not_mem htext,
        ih (List.cons_ne_nil _ _) fun other hother => h other (List.mem_cons_of_mem _ hother)]
      rfl

/-! ## The place of a piece -/

/-- A word without the separator does not reach from one side of a separator to the other. -/
theorem infix_append_cons {sep : Char} {word front rest : List Char} (hsep : sep ∉ word)
    (h : word <:+: front ++ sep :: rest) : word <:+: front ∨ word <:+: rest := by
  obtain ⟨before, after, htext⟩ := h
  rw [List.append_assoc] at htext
  rcases List.append_eq_append_iff.mp htext with ⟨within, rfl, hword⟩ | ⟨within, rfl, hrest⟩
  · -- the word begins in front of the separator, so it ends there as well
    rcases List.append_eq_append_iff.mp hword with ⟨left, rfl, -⟩ | ⟨left, rfl, hleft⟩
    · exact .inl ⟨before, left, List.append_assoc _ _ _⟩
    · cases left with
      | nil => exact .inl ⟨before, [], by simp⟩
      | cons c left =>
        obtain ⟨rfl, -⟩ := List.cons.inj hleft
        simp at hsep
  · cases within with
    | nil =>
      rw [List.nil_append] at hrest
      cases word with
      | nil => exact .inl (List.nil_infix)
      | cons c word =>
        obtain ⟨rfl, -⟩ := List.cons.inj hrest
        simp at hsep
    | cons c within =>
      rw [List.cons_append, List.cons.injEq] at hrest
      exact .inr ⟨within, after, by rw [hrest.2, List.append_assoc]⟩

theorem infix_append_cons_iff {sep : Char} {word front rest : List Char} (hsep : sep ∉ word) :
    word <:+: front ++ sep :: rest ↔ word <:+: front ∨ word <:+: rest := by
  constructor
  · exact infix_append_cons hsep
  · rintro (h | h)
    · exact h.trans (List.prefix_append _ _).isInfix
    · exact h.trans ((List.suffix_cons _ _).trans (List.suffix_append _ _)).isInfix

/-- A word is on one side of a separator that has none of its characters. -/
theorem infix_append_append_iff {separator word front rest : List Char} (hword : word ≠ [])
    (hne : separator ≠ []) (hapart : ∀ c ∈ separator, c ∉ word) :
    word <:+: front ++ (separator ++ rest) ↔ word <:+: front ∨ word <:+: rest := by
  induction separator generalizing front with
  | nil => exact absurd rfl hne
  | cons c separator ih =>
    rw [List.cons_append, infix_append_cons_iff (hapart c List.mem_cons_self)]
    by_cases hnil : separator = []
    · rw [hnil, List.nil_append]
    · have hrest : word <:+: [] ++ (separator ++ rest) ↔ word <:+: [] ∨ word <:+: rest :=
        ih hnil fun d hd => hapart d (List.mem_cons_of_mem c hd)
      rw [List.nil_append, List.infix_nil, or_iff_right hword] at hrest
      rw [hrest]

/-- A word is in a joined text when it is in one of the parts. -/
theorem infix_intercalate_iff {separator word : List Char} {parts : List (List Char)}
    (hword : word ≠ []) (hne : separator ≠ []) (hapart : ∀ c ∈ separator, c ∉ word) :
    word <:+: separator.intercalate parts ↔ ∃ part ∈ parts, word <:+: part := by
  induction parts with
  | nil => simpa [List.intercalate] using hword
  | cons part parts ih =>
    rw [List.exists_mem_cons_iff, ← ih]
    by_cases hnil : parts = []
    · subst hnil
      simpa [List.intercalate] using fun h => absurd h hword
    · rw [List.intercalate_cons_of_ne_nil hnil, List.append_assoc,
        infix_append_append_iff hword hne hapart]

/-- A word without the separator that occurs in pieces put together occurs in one of them. -/
theorem exists_infix_of_flatMap {sep : Char} {word : List Char} (hsep : sep ∉ word)
    (hne : word ≠ []) {pieces : List (List Char)} (h : word <:+: pieces.flatMap (· ++ [sep])) :
    ∃ piece ∈ pieces, word <:+: piece := by
  induction pieces with
  | nil => exact absurd (List.infix_nil.mp h) hne
  | cons piece pieces ih =>
    rw [List.flatMap_cons, List.append_assoc, List.singleton_append] at h
    rcases infix_append_cons hsep h with h | h
    · exact ⟨piece, List.mem_cons_self, h⟩
    · obtain ⟨other, hother, h⟩ := ih h
      exact ⟨other, List.mem_cons_of_mem _ hother, h⟩

/-- A text is made of its pieces. -/
theorem intercalate_pieces (sep : Char) (text : List Char) :
    [sep].intercalate (pieces sep text) = text := by
  induction text with
  | nil => rfl
  | cons c text ih =>
    have hne := pieces_ne_nil sep text
    by_cases hc : c = sep
    · rw [pieces, if_pos hc, List.intercalate_cons_of_ne_nil hne, ih, hc]
      rfl
    · rw [pieces, if_neg hc]
      cases hpieces : pieces sep text with
      | nil => exact absurd hpieces hne
      | cons first others =>
        rw [hpieces] at ih
        by_cases hothers : others = []
        · subst hothers
          rw [List.intercalate_singleton] at ih ⊢
          rw [ih]
        · rw [List.intercalate_cons_of_ne_nil hothers] at ih ⊢
          rw [← ih]
          rfl

/-- In front of a piece are the pieces before it, each with its separator. -/
theorem exists_back_of_pieces {sep : Char} {text piece : List Char}
    {before after : List (List Char)} (h : pieces sep text = before ++ piece :: after) :
    ∃ back, text = before.flatMap (· ++ [sep]) ++ (piece ++ back) ∧ ∀ c ∈ back.head?, c = sep := by
  have htext := intercalate_pieces sep text
  rw [h] at htext
  clear h
  induction before generalizing text with
  | nil =>
    by_cases hafter : after = []
    · subst hafter
      rw [List.nil_append, List.intercalate_singleton] at htext
      exact ⟨[], by simp [htext], nofun⟩
    · rw [List.nil_append, List.intercalate_cons_of_ne_nil hafter, List.append_assoc] at htext
      exact ⟨_, htext.symm, fun c hc => (Option.some.inj hc).symm⟩
  | cons first before ih =>
    rw [List.cons_append, List.intercalate_cons_of_ne_nil (by simp)] at htext
    obtain ⟨back, hrest, hback⟩ := ih rfl
    rw [hrest] at htext
    exact ⟨back, by rw [List.flatMap_cons, ← htext, List.append_assoc _ _ (piece ++ back)], hback⟩

/-! ## The place of a line -/

/-- A line is a piece, up to a carriage return, and so are the lines before it. -/
theorem exists_pieces_of_lines {text line : List Char} {before after : List (List Char)}
    (h : lines text = before ++ line :: after) :
    ∃ before' piece after', pieces '\n' text = before' ++ piece :: after' ∧
      before = before'.map dropReturn ∧ (line = dropReturn piece ∨ line = piece) := by
  have hne := pieces_ne_nil '\n' text
  obtain ⟨ended, last, hpieces⟩ : ∃ ended last, pieces '\n' text = ended ++ [last] :=
    ⟨_, _, (List.dropLast_append_getLast hne).symm⟩
  rw [lines, hpieces, List.dropLast_concat, List.getLast?_concat, Option.getD_some] at h
  rcases List.append_eq_append_iff.mp h with ⟨rest, rfl, hrest⟩ | ⟨rest, hended, hrest⟩
  · -- the line is the last one
    split at hrest
    · simp at hrest
    · cases rest with
      | nil =>
        obtain ⟨rfl, -⟩ := List.cons.inj hrest
        exact ⟨ended, last, [], hpieces, List.append_nil _, .inr rfl⟩
      | cons c rest => simp at hrest
  · cases rest with
    | nil =>
      rw [List.append_nil] at hended
      split at hrest
      · simp at hrest
      · obtain ⟨rfl, -⟩ := List.cons.inj hrest
        exact ⟨ended, line, [], hpieces, hended.symm, .inr rfl⟩
    | cons c rest =>
      obtain ⟨rfl, -⟩ := List.cons.inj hrest
      obtain ⟨before', behind, rfl, rfl, hbehind⟩ := List.map_eq_append_iff.mp hended
      obtain ⟨piece, after', rfl, rfl, -⟩ := List.map_eq_cons_iff.mp hbehind
      exact ⟨before', piece, after' ++ [last], by simp [hpieces], rfl, .inl rfl⟩

theorem dropReturn_eq_or (piece : List Char) :
    piece = dropReturn piece ∨ piece = dropReturn piece ++ ['\r'] := by
  rw [dropReturn]
  by_cases h : piece.getLast? = some '\r'
  · rw [if_pos h]
    exact .inr (List.dropLast_append_getLast? _ h).symm
  · rw [if_neg h]
    exact .inl rfl

/-- A word that occurs in a piece occurs in the line that the piece makes. -/
theorem infix_dropReturn {word piece : List Char} (hreturn : '\r' ∉ word)
    (h : word <:+: piece) : word <:+: dropReturn piece := by
  rcases dropReturn_eq_or piece with heq | heq
  · exact heq ▸ h
  · rw [heq] at h
    rcases infix_append_cons hreturn h with h | h
    · exact h
    · rw [List.infix_nil.mp h]
      exact List.nil_infix

/-- **The place of a line.** The text is the line between what is in front of it, which ends a line,
and what is behind it, which begins with a line end. A word that occurs in front of it occurs in an
earlier line. -/
theorem exists_place_of_lines {text line : List Char} {before after : List (List Char)}
    (h : lines text = before ++ line :: after) :
    ∃ front back, text = front ++ (line ++ back) ∧
      (∀ c ∈ back.head?, c = '\n' ∨ c = '\r') ∧ (∀ c ∈ front.getLast?, c = '\n') ∧
      ∀ word, word ≠ [] → '\n' ∉ word → '\r' ∉ word → word <:+: front →
        ∃ earlier ∈ before, word <:+: earlier := by
  obtain ⟨before', piece, after', hpieces, rfl, hline⟩ := exists_pieces_of_lines h
  obtain ⟨back, htext, hback⟩ := exists_back_of_pieces hpieces
  refine ⟨before'.flatMap (· ++ ['\n']), ?_⟩
  have hend : ∀ c ∈ (before'.flatMap (· ++ ['\n'])).getLast?, c = '\n' := by
    intro c hc
    rcases List.eq_nil_or_concat before' with rfl | ⟨init, last, rfl⟩
    · cases hc
    · simpa using hc.symm
  have hearlier : ∀ word, word ≠ [] → '\n' ∉ word → '\r' ∉ word →
      word <:+: before'.flatMap (· ++ ['\n']) →
        ∃ earlier ∈ before'.map dropReturn, word <:+: earlier := by
    intro word hne hfeed hreturn hinfix
    obtain ⟨earlier, hmem, hinfix⟩ := exists_infix_of_flatMap hfeed hne hinfix
    exact ⟨dropReturn earlier, List.mem_map_of_mem hmem, infix_dropReturn hreturn hinfix⟩
  -- a carriage return at the end of the piece belongs to what is behind the line
  rcases hline with rfl | rfl
  · rcases dropReturn_eq_or piece with heq | heq
    · rw [← heq]
      exact ⟨back, htext, fun c hc => .inl (hback c hc), hend, hearlier⟩
    · refine ⟨'\r' :: back, ?_, fun c hc => .inr (Option.some.inj hc).symm, hend, hearlier⟩
      rw [htext]
      nth_rewrite 1 [heq]
      rw [List.append_assoc (dropReturn piece), List.singleton_append]
  · exact ⟨back, htext, fun c hc => .inl (hback c hc), hend, hearlier⟩

/-! ## The lines behind a line -/

/-- A text without line feeds is a line, unless it is empty. -/
theorem lines_of_not_mem {text : List Char} (h : '\n' ∉ text) :
    lines text = if text = [] then [] else [text] := by
  rw [lines, pieces_of_not_mem h]
  rfl

/-- The first line feed ends the first line. -/
theorem lines_append_cons {line : List Char} (h : '\n' ∉ line) (rest : List Char) :
    lines (line ++ '\n' :: rest) = dropReturn line :: lines rest := by
  have hne := pieces_ne_nil '\n' rest
  rw [lines, pieces_append_cons, pieces_of_not_mem h, List.singleton_append,
    List.dropLast_cons_of_ne_nil hne, List.getLast?_cons_of_ne_nil hne, List.map_cons,
    List.cons_append, lines]

/-- What stands behind a line: nothing, or a line end and a text of which the lines are those that
follow. -/
def Behind (back : List Char) (after : List (List Char)) : Prop :=
  (back = [] ∧ after = []) ∨
    ∃ lineEnd rest, back = lineEnd ++ rest ∧ (lineEnd = ['\n'] ∨ lineEnd = ['\r', '\n']) ∧
      lines rest = after

theorem Behind.head?_eq {back : List Char} {after : List (List Char)} (h : Behind back after) :
    ∀ c ∈ back.head?, c = '\n' ∨ c = '\r' := by
  intro c hc
  rcases h with ⟨rfl, -⟩ | ⟨lineEnd, rest, rfl, rfl | rfl, -⟩
  · cases hc
  · exact .inl (Option.some.inj hc).symm
  · exact .inr (Option.some.inj hc).symm

theorem exists_behind_of_lines_eq_cons {text line : List Char} {after : List (List Char)}
    (h : lines text = line :: after) : ∃ back, text = line ++ back ∧ Behind back after := by
  by_cases hfeed : '\n' ∈ text
  · obtain ⟨front, rest, rfl, hfront⟩ := List.eq_append_cons_of_mem hfeed
    rw [lines_append_cons hfront] at h
    obtain ⟨rfl, rfl⟩ := List.cons.inj h
    rcases dropReturn_eq_or front with heq | heq
    · exact ⟨'\n' :: rest, by rw [← heq], .inr ⟨['\n'], rest, rfl, .inl rfl, rfl⟩⟩
    · refine ⟨'\r' :: '\n' :: rest, ?_, .inr ⟨['\r', '\n'], rest, rfl, .inr rfl, rfl⟩⟩
      nth_rewrite 1 [heq]
      rw [List.append_assoc, List.singleton_append]
  · rw [lines_of_not_mem hfeed] at h
    split at h
    · cases h
    · obtain ⟨rfl, rfl⟩ := List.cons.inj h
      exact ⟨[], (List.append_nil _).symm, .inl ⟨rfl, rfl⟩⟩

/-- A line divides the text into what is in front of it and what is behind it. -/
theorem exists_behind_of_lines {text line : List Char} {before after : List (List Char)}
    (h : lines text = before ++ line :: after) :
    ∃ front back, text = front ++ (line ++ back) ∧ Behind back after := by
  induction before generalizing text with
  | nil =>
    obtain ⟨back, htext, hback⟩ := exists_behind_of_lines_eq_cons h
    exact ⟨[], back, htext, hback⟩
  | cons first before ih =>
    obtain ⟨back, htext, hback⟩ := exists_behind_of_lines_eq_cons h
    rcases hback with ⟨-, hnil⟩ | ⟨lineEnd, rest, rfl, -, hrest⟩
    · exact absurd hnil (by simp)
    · obtain ⟨front, back', rfl, hback'⟩ := ih hrest
      exact ⟨first ++ (lineEnd ++ front), back', by simp [htext], hback'⟩

end StarterCode.Text
