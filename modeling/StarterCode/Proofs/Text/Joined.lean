import Mathlib.Data.List.Basic
import StarterCode.Text.Search

/-!
# Reading joined texts back

A code is read back from the front of a text when what follows it plays no part: two texts that
begin with a code each and are equal have the same code there and the same rest. `Delimits` says
this of a pair of codes. It carries over to codes that are joined by a separator and closed by
something that cannot be taken for the separator (`Delimits.joined`), and this is the step by which
nested lists of codes are read back.

A template is read back too: with a text in its slot it is what stands in front of the slot, the
text, and what stands behind it (`replaceFirst_append`).
-/

set_option autoImplicit false

namespace StarterCode.Text

universe u v

variable {α : Type u} {β : Type v}

/-- Neither of two texts begins with the other. -/
def Apart (text text' : List Char) : Prop :=
  ¬ text <+: text' ∧ ¬ text' <+: text

instance (text text' : List Char) : Decidable (Apart text text') := by
  unfold Apart
  infer_instance

theorem Apart.append_ne {text text' : List Char} (h : Apart text text') (rest rest' : List Char) :
    text ++ rest ≠ text' ++ rest' := by
  intro heq
  have hpre : text <+: text' ++ rest' := heq ▸ List.prefix_append text rest
  rcases List.prefix_or_prefix_of_prefix hpre (List.prefix_append text' rest') with h' | h'
  · exact h.1 h'
  · exact h.2 h'

/-- The codes of two values are read back from whatever texts they begin: the values have the same
key, and the same is left of the texts. -/
def Delimits (code : α → List Char) (key : α → β) (a b : α) : Prop :=
  ∀ rest rest', code a ++ rest = code b ++ rest' → key a = key b ∧ rest = rest'

/-- Joined codes are read back. What closes them may differ, but not be taken for a separator. -/
theorem Delimits.joined {code : α → List Char} {key : α → β}
    {separator closing closing' : List Char} (hclosing : Apart separator closing)
    (hclosing' : Apart separator closing') {rest rest' : List Char} :
    ∀ {list list' : List α}, list ≠ [] → list' ≠ [] →
      (∀ a ∈ list, ∀ b ∈ list', Delimits code key a b) →
      separator.intercalate (list.map code) ++ (closing ++ rest) =
        separator.intercalate (list'.map code) ++ (closing' ++ rest') →
      list.map key = list'.map key ∧ closing ++ rest = closing' ++ rest'
  | [], _, hne, _, _, _ => absurd rfl hne
  | _, [], _, hne, _, _ => absurd rfl hne
  | [a], [b], _, _, hdelimits, heq => by
    simp only [List.map_cons, List.map_nil, List.intercalate_singleton] at heq
    obtain ⟨hkey, hrest⟩ := hdelimits a (by simp) b (by simp) _ _ heq
    exact ⟨by simp [hkey], hrest⟩
  | [a], b :: b' :: list', _, _, hdelimits, heq => by
    simp only [List.map_cons, List.map_nil, List.intercalate_singleton,
      List.intercalate_cons_cons, List.append_assoc] at heq
    -- one list is closed where the other goes on with a separator
    obtain ⟨-, hrest⟩ := hdelimits a (by simp) b (by simp) _ _ heq
    exact absurd hrest.symm (hclosing.append_ne _ _)
  | a :: a' :: list, [b], _, _, hdelimits, heq => by
    simp only [List.map_cons, List.map_nil, List.intercalate_singleton,
      List.intercalate_cons_cons, List.append_assoc] at heq
    obtain ⟨-, hrest⟩ := hdelimits a (by simp) b (by simp) _ _ heq
    exact absurd hrest (hclosing'.append_ne _ _)
  | a :: a' :: list, b :: b' :: list', _, _, hdelimits, heq => by
    simp only [List.map_cons, List.intercalate_cons_cons, List.append_assoc] at heq
    obtain ⟨hkey, hrest⟩ := hdelimits a (by simp) b (by simp) _ _ heq
    have hothers := Delimits.joined hclosing hclosing' (List.cons_ne_nil a' list)
      (List.cons_ne_nil b' list')
      (fun c hc d hd => hdelimits c (List.mem_cons_of_mem _ hc) d (List.mem_cons_of_mem _ hd))
      (List.append_cancel_left hrest)
    exact ⟨congrArg₂ List.cons hkey hothers.1, hothers.2⟩

/-- A separated list with one more part at its end. -/
theorem intercalate_concat (separator : List Char) {parts : List (List Char)} (h : parts ≠ [])
    (part : List Char) : separator.intercalate (parts ++ [part]) =
      separator.intercalate parts ++ separator ++ part := by
  induction parts with
  | nil => exact absurd rfl h
  | cons first parts ih =>
    by_cases hparts : parts = []
    · subst hparts
      simp [List.intercalate_cons_cons]
    · rw [List.cons_append, List.intercalate_cons_of_ne_nil (by simp), ih hparts,
        List.intercalate_cons_of_ne_nil hparts]
      simp only [List.append_assoc]

/-- From its end a separated list is a separated list as well. -/
theorem reverse_intercalate (separator : List Char) (parts : List (List Char)) :
    (separator.intercalate parts).reverse =
      separator.reverse.intercalate (parts.reverse.map List.reverse) := by
  induction parts with
  | nil => rfl
  | cons part parts ih =>
    by_cases hparts : parts = []
    · subst hparts
      simp
    · rw [List.intercalate_cons_of_ne_nil hparts, List.reverse_append, List.reverse_append, ih,
        List.reverse_cons, List.map_append, List.map_singleton,
        intercalate_concat _ (by simpa using hparts), List.append_assoc]

/-- A template is filled at its slot. -/
theorem replaceFirst_append {opening closing : Char} {front : List Char} (h : opening ∉ front)
    (inner back : List Char) :
    replaceFirst opening closing inner (front ++ opening :: closing :: back) =
      front ++ inner ++ back := by
  induction front with
  | nil => simp [replaceFirst]
  | cons c front ih =>
    rw [List.mem_cons, not_or] at h
    obtain ⟨d, behind, hbehind⟩ : ∃ d behind, front ++ opening :: closing :: back = d :: behind :=
      List.exists_cons_of_ne_nil (by simp)
    rw [List.cons_append, hbehind, replaceFirst, if_neg (fun hslot => h.1 hslot.1.symm), ← hbehind,
      ih h.2]
    rfl

end StarterCode.Text
