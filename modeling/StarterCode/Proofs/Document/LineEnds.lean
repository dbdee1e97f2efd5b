import Mathlib.Data.List.Forall2
import StarterCode.Proofs.Document.Insertion

/-!
# Line ends

A document is read line by line. Where a line feed joins two texts, the labelled lines are those of
the first text and behind them those of the second, whose numbers are counted on from the line feeds
in front. It makes no difference whether a line ends with a line feed alone or with a carriage
return before it, nor how many carriage returns stand there: each line feed may get one more.

Both follow from the labelled lines being those of the stretches between the line feeds
(`labelledLines_eq`), the last stretch and the carriage returns included. A line feed between two
texts puts their stretches one after the other, and a carriage return in front of a line feed is the
last character of a stretch, where it takes no part in the entry.
-/

set_option autoImplicit false

namespace StarterCode

/-! ## Carriage returns put in -/

namespace Text

/-- The text with a carriage return in front of each chosen line feed. The line feeds are counted
from 0. -/
def withReturns (chosen : Nat → Bool) : List Char → List Char
  | [] => []
  | c :: rest =>
    if c = '\n' then
      (if chosen 0 then ['\r', '\n'] else ['\n']) ++ withReturns (fun i => chosen (i + 1)) rest
    else c :: withReturns chosen rest

example : withReturns (· != 1) "a\n\nb\r\n".toList = "a\r\n\nb\r\r\n".toList := by decide

/-- The second stretch is the first one, or the first one with a carriage return behind it. -/
def MayReturn (piece piece' : List Char) : Prop :=
  piece' = piece ∨ piece' = piece ++ ['\r']

theorem MayReturn.cons {piece piece' : List Char} (h : MayReturn piece piece') (c : Char) :
    MayReturn (c :: piece) (c :: piece') := by
  rcases h with rfl | rfl
  · exact .inl rfl
  · exact .inr rfl

/-- A character that is no line feed joins the first of two stretches. -/
theorem forall₂_pieces_cons {c : Char} (hc : c ≠ '\n') {text text' : List Char}
    (h : List.Forall₂ MayReturn (pieces '\n' text) (pieces '\n' text')) :
    List.Forall₂ MayReturn (pieces '\n' (c :: text)) (pieces '\n' (c :: text')) := by
  rw [pieces, pieces, if_neg hc, if_neg hc]
  cases hpieces : pieces '\n' text with
  | nil => exact absurd hpieces (pieces_ne_nil '\n' text)
  | cons piece others =>
    rw [hpieces] at h
    obtain ⟨piece', others', hpiece, hothers, heq⟩ := List.forall₂_cons_left_iff.mp h
    rw [heq]
    exact .cons (hpiece.cons c) hothers

/-- Carriage returns in front of line feeds stand at the ends of stretches. -/
theorem forall₂_pieces_withReturns (chosen : Nat → Bool) (text : List Char) :
    List.Forall₂ MayReturn (pieces '\n' text) (pieces '\n' (withReturns chosen text)) := by
  induction text generalizing chosen with
  | nil => exact .cons (.inl rfl) .nil
  | cons c text ih =>
    rw [withReturns]
    by_cases hc : c = '\n'
    · rw [if_pos hc, hc, pieces, if_pos rfl]
      have hothers := ih fun i => chosen (i + 1)
      split
      · -- the carriage return is a stretch of its own behind the stretch that was empty
        have hpieces := pieces_append_cons '\n' ['\r'] (withReturns (fun i => chosen (i + 1)) text)
        rw [List.singleton_append] at hpieces
        rw [List.cons_append, List.singleton_append, hpieces]
        exact .cons (.inr rfl) hothers
      · rw [List.singleton_append, pieces, if_pos rfl]
        exact .cons (.inl rfl) hothers
    · rw [if_neg hc]
      exact forall₂_pieces_cons hc (ih chosen)

end Text

namespace Document

/-- A carriage return at the end of a stretch takes no part in its entry. -/
theorem entryOf?_of_mayReturn {piece piece' : List Char} (h : Text.MayReturn piece piece') :
    entryOf? piece' = entryOf? piece := by
  rcases h with rfl | rfl
  · rfl
  · -- the entry is read off the line, which ends before one carriage return
    rw [← entryOf?_dropReturn, Text.dropReturn, if_pos List.getLast?_concat, List.dropLast_concat]

theorem map_entryOf?_of_mayReturn {pieces pieces' : List (List Char)}
    (h : List.Forall₂ Text.MayReturn pieces pieces') :
    pieces'.map entryOf? = pieces.map entryOf? := by
  induction h with
  | nil => rfl
  | cons hpiece _ ih => rw [List.map_cons, List.map_cons, entryOf?_of_mayReturn hpiece, ih]

/-! ## Line by line -/

theorem labelledLines_withReturns (chosen : Nat → Bool) (text : String) :
    labelledLines (String.ofList (Text.withReturns chosen text.toList)) = labelledLines text := by
  rw [labelledLines_eq, labelledLines_eq, String.toList_ofList]
  exact labelledFrom_congr 1
    (map_entryOf?_of_mayReturn (Text.forall₂_pieces_withReturns chosen text.toList))

theorem labelledLines_append_feed (a b : String) :
    labelledLines (a ++ "\n" ++ b) = labelledLines a ++
      (labelledLines b).map (·.renumbered (· + (1 + a.toList.count '\n'))) := by
  have htext : (a ++ "\n" ++ b).toList = a.toList ++ '\n' :: b.toList := by simp
  have hcount : (Text.pieces '\n' a.toList).length = 1 + a.toList.count '\n' := by
    rw [Text.length_pieces, Nat.add_comm]
  rw [labelledLines_eq, labelledLines_eq, labelledLines_eq, htext, Text.pieces_append_cons,
    labelledFrom_append, labelledFrom_add, hcount]

/-- The numbers of labelled lines increase. -/
theorem pairwise_labelledFrom (number : Nat) (lines : List (List Char)) :
    (labelledFrom number lines).Pairwise (·.line < ·.line) := by
  induction lines generalizing number with
  | nil => exact .nil
  | cons line lines ih =>
    rw [labelledFrom_cons]
    cases entryOf? line with
    | none => exact ih (number + 1)
    | some entry =>
      -- what comes later is counted from the next number on
      refine .cons (fun later hlater => ?_) (ih (number + 1))
      exact (line_of_mem_labelledFrom hlater).1

/-- **Documents are read line by line.** The labelled lines of two texts with a line feed between
them are those of the first and those of the second, pushed down by the lines in front. Carriage
returns put in front of any line feeds change nothing. So the numbers of the labelled lines
increase from each one to the next. -/
theorem labelledLines_line_by_line :
    (∀ a b : String, labelledLines (a ++ "\n" ++ b) = labelledLines a ++
      (labelledLines b).map (·.renumbered (· + (1 + a.toList.count '\n')))) ∧
    (∀ (chosen : Nat → Bool) (text : String),
      labelledLines (String.ofList (Text.withReturns chosen text.toList)) = labelledLines text) ∧
    ∀ text : String, (labelledLines text).Pairwise (·.line < ·.line) := by
  refine ⟨labelledLines_append_feed, labelledLines_withReturns, ?_⟩
  intro text
  exact pairwise_labelledFrom 1 (Text.lines text.toList)

end Document

end StarterCode
