import Mathlib.Data.List.Infix
import StarterCode.Text.Search

/-!
# What a search finds

A search answers with what is read at the first position at which something is read. So it has an
answer when there is such a position at all (`isSome_findFrom?`), and behind its answer is a
position before which nothing is read (`exists_of_findFrom?_eq_some`). For a word in the place of a
reader this is the relation of being a part of a text (`occurs_iff`). Where a word occurs once, all
that is read behind it is read at one position (`findFrom?_eq_of_count_eq_one`). On both sides of a
separator occurrences are counted apart (`count_append_cons`).

Whether a text begins with a word does not depend on what stands behind the text, unless that could
continue the word.
-/

set_option autoImplicit false

namespace StarterCode.Text

universe u

variable {α : Type u} {read : List Char → Option α}

/-! ## Searches -/

theorem findFrom?_eq_tail {text : List Char} (h : read text = none) :
    findFrom? read text = findFrom? read text.tail := by
  cases text with
  | nil => rfl
  | cons c text => rw [findFrom?, h, Option.none_or, List.tail_cons]

theorem isSome_findFrom? {text : List Char} :
    (findFrom? read text).isSome = true ↔
      ∃ front rest, text = front ++ rest ∧ (read rest).isSome = true := by
  induction text with
  | nil =>
    rw [findFrom?]
    constructor
    · intro h
      exact ⟨[], [], rfl, h⟩
    · rintro ⟨front, rest, htext, h⟩
      rw [(List.nil_eq_append_iff.mp htext).2] at h
      exact h
  | cons c text ih =>
    rw [findFrom?, Option.isSome_or, Bool.or_eq_true, ih]
    constructor
    · rintro (h | ⟨front, rest, htext, h⟩)
      · exact ⟨[], c :: text, rfl, h⟩
      · exact ⟨c :: front, rest, by rw [htext, List.cons_append], h⟩
    · rintro ⟨front, rest, htext, h⟩
      cases front with
      | nil =>
        rw [List.nil_append] at htext
        exact .inl (htext ▸ h)
      | cons d front => exact .inr ⟨front, rest, (List.cons.inj htext).2, h⟩

/-- The answer of a search is read at a position, and at no position before it. -/
theorem exists_of_findFrom?_eq_some {text : List Char} {answer : α}
    (h : findFrom? read text = some answer) :
    ∃ front rest, text = front ++ rest ∧ read rest = some answer ∧
      ∀ front' rest', text = front' ++ rest' → front'.length < front.length →
        read rest' = none := by
  induction text with
  | nil => exact ⟨[], [], rfl, h, fun _ _ _ hlength => absurd hlength (Nat.not_lt_zero _)⟩
  | cons c text ih =>
    cases hread : read (c :: text) with
    | some found =>
      rw [findFrom?, hread, Option.some_or] at h
      refine ⟨[], c :: text, rfl, hread.trans h, ?_⟩
      exact fun _ _ _ hlength => absurd hlength (Nat.not_lt_zero _)
    | none =>
      rw [findFrom?_eq_tail hread] at h
      obtain ⟨front, rest, htext, hanswer, hnone⟩ := ih h
      refine ⟨c :: front, rest, congrArg (c :: ·) htext, hanswer, ?_⟩
      intro front' rest' htext' hlength
      cases front' with
      | nil =>
        rw [List.nil_append] at htext'
        exact htext' ▸ hread
      | cons d front' =>
        refine hnone front' rest' (List.cons.inj htext').2 ?_
        rw [List.length_cons, List.length_cons] at hlength
        omega

/-- A word occurs in a text when it is a part of it. -/
theorem occurs_iff {word text : List Char} : occurs word text = true ↔ word <:+: text := by
  have hfront : ∀ rest : List Char, (word.isPrefixOf? rest).isSome = true ↔
      ∃ back, word ++ back = rest := by
    intro rest
    rw [Option.isSome_iff_exists]
    exact exists_congr fun back => List.isPrefixOf?_eq_some_iff_append_eq
  rw [occurs, isSome_findFrom?]
  constructor
  · rintro ⟨front, rest, rfl, h⟩
    obtain ⟨back, rfl⟩ := (hfront rest).mp h
    exact ⟨front, back, List.append_assoc _ _ _⟩
  · rintro ⟨front, back, rfl⟩
    exact ⟨front, word ++ back, List.append_assoc _ _ _, (hfront _).mpr ⟨back, rfl⟩⟩

/-! ## Words that occur once -/

/-- The number of positions of the text at which `word` stands. -/
def count (word text : List Char) : Nat :=
  text.tails.countP word.isPrefixOf

/-- Behind the only occurrence of a word is one text. -/
theorem rest_eq_of_count_eq_one {word text front rest front' rest' : List Char}
    (h : count word text = 1) (htext : text = front ++ (word ++ rest))
    (htext' : text = front' ++ (word ++ rest')) : rest = rest' := by
  rw [count, List.countP_eq_length_filter, List.length_eq_one_iff] at h
  obtain ⟨only, honly⟩ := h
  have hposition : ∀ {front rest : List Char}, text = front ++ (word ++ rest) →
      word ++ rest = only := by
    intro front rest htext
    have hmem : word ++ rest ∈ text.tails.filter word.isPrefixOf := by
      rw [List.mem_filter, List.mem_tails, List.isPrefixOf_iff_prefix]
      exact ⟨⟨front, htext.symm⟩, List.prefix_append word rest⟩
    rw [honly] at hmem
    exact List.mem_singleton.mp hmem
  exact List.append_cancel_left ((hposition htext).trans (hposition htext').symm)

/-- A search for something behind a word that occurs once looks at that occurrence alone. -/
theorem findFrom?_eq_of_count_eq_one {word text front rest : List Char}
    (hread : ∀ text answer, read text = some answer → word <+: text)
    (h : count word text = 1) (htext : text = front ++ (word ++ rest)) :
    findFrom? read text = read (word ++ rest) := by
  cases hfind : findFrom? read text with
  | some answer =>
    obtain ⟨front', position, htext', hanswer, -⟩ := exists_of_findFrom?_eq_some hfind
    obtain ⟨rest', rfl⟩ := hread position answer hanswer
    rw [rest_eq_of_count_eq_one h htext htext', hanswer]
  | none =>
    cases hanswer : read (word ++ rest) with
    | none => rfl
    | some answer =>
      have hsome : (findFrom? read text).isSome = true :=
        isSome_findFrom?.mpr ⟨front, word ++ rest, htext, by rw [hanswer]; rfl⟩
      rw [hfind] at hsome
      cases hsome

/-! ## The number of occurrences -/

theorem count_cons (word : List Char) (c : Char) (text : List Char) :
    count word (c :: text) =
      count word text + if word.isPrefixOf (c :: text) = true then 1 else 0 := by
  rw [count, List.tails_cons, List.countP_cons, count]

/-- A word is not counted where it does not occur. -/
theorem count_eq_zero_iff {word text : List Char} : count word text = 0 ↔ ¬ word <:+: text := by
  rw [count, List.countP_eq_zero]
  constructor
  · rintro h ⟨front, back, rfl⟩
    refine h (word ++ back) ?_ (List.isPrefixOf_iff_prefix.mpr (List.prefix_append word back))
    rw [List.mem_tails, List.append_assoc]
    exact List.suffix_append _ _
  · intro h rest hrest hprefix
    have hwithin := (List.isPrefixOf_iff_prefix.mp hprefix).isInfix
    exact h (hwithin.trans (List.mem_tails _ _ |>.mp hrest).isInfix)

/-- A word without the separator ends in front of it. -/
theorem prefix_append_cons_iff {sep : Char} {word : List Char} (hsep : sep ∉ word)
    (front rest : List Char) : word <+: front ++ sep :: rest ↔ word <+: front := by
  constructor
  · intro h
    rcases List.prefix_or_prefix_of_prefix h (List.prefix_append front (sep :: rest)) with h' | h'
    · exact h'
    · obtain ⟨within, rfl⟩ := h'
      cases within with
      | nil => simp
      | cons c within =>
        obtain ⟨rfl, -⟩ := List.cons_prefix_cons.mp ((List.prefix_append_right_inj front).mp h)
        simp at hsep
  · exact fun h => h.trans (List.prefix_append _ _)

/-- On both sides of a separator a word is counted apart. -/
theorem count_append_cons {sep : Char} {word : List Char} (hne : word ≠ []) (hsep : sep ∉ word)
    (front rest : List Char) :
    count word (front ++ sep :: rest) = count word front + count word rest := by
  induction front with
  | nil =>
    have hzero : count word [] = 0 :=
      count_eq_zero_iff.mpr fun h => hne (List.infix_nil.mp h)
    have hprefix : ¬ word.isPrefixOf (sep :: rest) = true := by
      rw [List.isPrefixOf_iff_prefix]
      intro h
      exact hne (List.prefix_nil.mp ((prefix_append_cons_iff hsep [] rest).mp h))
    rw [List.nil_append, count_cons, if_neg hprefix, hzero, Nat.zero_add, Nat.add_zero]
  | cons c front ih =>
    have hfront : word.isPrefixOf (c :: (front ++ sep :: rest)) = true ↔
        word.isPrefixOf (c :: front) = true := by
      rw [List.isPrefixOf_iff_prefix, List.isPrefixOf_iff_prefix]
      exact prefix_append_cons_iff hsep (c :: front) rest
    rw [List.cons_append, count_cons, count_cons, ih]
    simp only [hfront]
    omega

/-! ## Words at the front -/

/-- A text that cannot continue a word may stand behind the text that is searched for it. -/
theorem isPrefixOf?_append {pre back : List Char} (h : ∀ c ∈ back.head?, c ∉ pre)
    (text : List Char) :
    pre.isPrefixOf? (text ++ back) = (pre.isPrefixOf? text).map (· ++ back) := by
  induction pre generalizing text with
  | nil => cases text <;> cases back <;> rfl
  | cons d pre ih =>
    have hpre : ∀ c ∈ back.head?, c ∉ pre := fun c hc hmem => h c hc (List.mem_cons_of_mem d hmem)
    cases text with
    | nil =>
      cases back with
      | nil => rfl
      | cons c back =>
        have hne : (d == c) = false := by
          rw [beq_eq_false_iff_ne]
          rintro rfl
          exact h d rfl List.mem_cons_self
        simp [List.isPrefixOf?, hne]
    | cons e text =>
      simp only [List.cons_append, List.isPrefixOf?]
      split
      · exact ih hpre text
      · rfl

theorem dropPrefix_append {pre back : List Char} (h : ∀ c ∈ back.head?, c ∉ pre)
    (text : List Char) : dropPrefix pre (text ++ back) = dropPrefix pre text ++ back := by
  rw [dropPrefix, isPrefixOf?_append h, dropPrefix]
  cases pre.isPrefixOf? text <;> rfl

end StarterCode.Text
