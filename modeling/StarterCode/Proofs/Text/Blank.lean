import Mathlib.Data.List.DropRight
import StarterCode.Text.Blank
import StarterCode.Text.Identifier

/-!
# Trimmed texts and their first words

The cuts of `StarterCode.Text.Blank` are a `takeWhile` or a `dropWhile` each. What the readers of
lines need of them is collected here: trimming takes off blanks and nothing else, and a text that
begins with a character that is not blank keeps this character whatever is cut off behind it. From
the second fact follows what a trimmed text is made of, its first word and the rest behind it.

Two functions look for first words. `splitFirstWord` answers with the word and the rest, `words`
with all words. They agree on the first one.
-/

set_option autoImplicit false

namespace StarterCode.Text

/-! ## Trimming -/

theorem trim_cons_of_isBlank {c : Char} (h : isBlank c = true) (s : List Char) :
    trim (c :: s) = trim s := by
  rw [trim, trimLeft, List.dropWhile_cons_of_pos h]
  rfl

theorem trimRight_append_of_isBlank (s : List Char) {back : List Char}
    (h : ∀ c ∈ back, isBlank c = true) : trimRight (s ++ back) = trimRight s := by
  have hback : ∀ c ∈ back.reverse, isBlank c = true := fun c hc => h c (List.mem_reverse.mp hc)
  rw [trimRight, List.reverse_append, List.dropWhile_append_of_pos hback]
  rfl

theorem trim_append_of_isBlank (s : List Char) {back : List Char}
    (h : ∀ c ∈ back, isBlank c = true) : trim (s ++ back) = trim s := by
  have hback : back.dropWhile isBlank = [] := List.dropWhile_eq_nil_iff.mpr h
  rw [trim, trimLeft, List.dropWhile_append, hback]
  split
  · next hempty =>
    rw [trim, trimLeft, List.isEmpty_iff.mp hempty]
  · rw [trimRight_append_of_isBlank _ h]
    rfl

/-- Only blanks are cut off at the end. -/
theorem exists_trimRight (s : List Char) :
    ∃ back, s = trimRight s ++ back ∧ ∀ c ∈ back, isBlank c = true := by
  refine ⟨s.rtakeWhile isBlank, (List.rdropWhile_append_rtakeWhile (p := isBlank)).symm, ?_⟩
  intro c hc
  exact List.mem_rtakeWhile_imp hc

theorem trimRight_cons {c : Char} (h : isBlank c = false) (s : List Char) :
    trimRight (c :: s) = c :: trimRight s := by
  have hsingle : [c].dropWhile isBlank = [c] := by rw [List.dropWhile_cons, h]; rfl
  rw [trimRight, List.reverse_cons, List.dropWhile_append, hsingle]
  split
  · next hempty =>
    rw [trimRight, List.isEmpty_iff.mp hempty]
    rfl
  · rw [List.reverse_append]
    rfl

/-- A text that begins with a character that is not blank keeps it. -/
theorem trim_cons {c : Char} (h : isBlank c = false) (s : List Char) :
    trim (c :: s) = c :: trimRight s := by
  rw [trim, trimLeft, List.dropWhile_cons, h]
  exact trimRight_cons h s

theorem trimRight_append {front : List Char} (h : ∀ c ∈ front, isBlank c = false)
    (s : List Char) : trimRight (front ++ s) = front ++ trimRight s := by
  induction front with
  | nil => rfl
  | cons c front ih =>
    rw [List.cons_append, trimRight_cons (h c List.mem_cons_self),
      ih fun d hd => h d (List.mem_cons_of_mem c hd)]
    rfl

/-- A trimmed text is empty or begins with a character that is not blank. -/
theorem trimLeft_eq_nil_or (s : List Char) :
    trimLeft s = [] ∨ ∃ c rest, trimLeft s = c :: rest ∧ isBlank c = false := by
  induction s with
  | nil => exact .inl rfl
  | cons c s ih =>
    rw [trimLeft, List.dropWhile_cons]
    by_cases hc : isBlank c = true
    · rw [if_pos hc]
      exact ih
    · rw [if_neg hc]
      exact .inr ⟨c, s, rfl, Bool.eq_false_iff.mpr hc⟩

theorem trim_trim (s : List Char) : trim (trim s) = trim s := by
  rcases trimLeft_eq_nil_or s with hnil | ⟨c, rest, hcons, hc⟩
  · have hs : trim s = [] := by rw [trim, hnil]; rfl
    rw [hs]
    rfl
  · have hs : trim s = c :: trimRight rest := by rw [trim, hcons, trimRight_cons hc]
    rw [hs, trim_cons hc]
    exact congrArg (c :: ·) (List.rdropWhile_idempotent isBlank rest)

theorem trim_trimRight (s : List Char) : trim (trimRight s) = trim s := by
  obtain ⟨back, htext, hback⟩ := exists_trimRight s
  calc trim (trimRight s) = trim (trimRight s ++ back) := (trim_append_of_isBlank _ hback).symm
    _ = trim s := by rw [← htext]

/-- A text without blanks is trimmed. -/
theorem trim_of_not_isBlank {s : List Char} (h : ∀ c ∈ s, isBlank c = false) : trim s = s := by
  have hright : trimRight s = s := by
    have happend := trimRight_append h []
    rw [List.append_nil] at happend
    rw [happend]
    exact List.append_nil s
  cases s with
  | nil => rfl
  | cons c s =>
    rw [trimRight_cons (h c List.mem_cons_self)] at hright
    rw [trim_cons (h c List.mem_cons_self), hright]

/-- A text between two characters that are not blank is trimmed. -/
theorem trim_enclosed {c d : Char} (hc : isBlank c = false) (hd : isBlank d = false)
    (s : List Char) : trim (c :: (s ++ [d])) = c :: (s ++ [d]) := by
  have hend : ¬ isBlank d = true := by rw [hd]; exact nofun
  rw [trim_cons hc]
  exact congrArg (c :: ·) (List.rdropWhile_concat_neg isBlank s d hend)

/-- Something is left of a text in which something is not blank. -/
theorem trim_ne_nil_iff {s : List Char} : trim s ≠ [] ↔ ∃ c ∈ s, isBlank c = false := by
  rcases trimLeft_eq_nil_or s with hnil | ⟨c, rest, hcons, hc⟩
  · have hs : trim s = [] := by rw [trim, hnil]; rfl
    refine ⟨fun h => absurd hs h, ?_⟩
    rintro ⟨c, hmem, hc⟩
    have hblank : isBlank c = true := List.dropWhile_eq_nil_iff.mp hnil c hmem
    rw [hc] at hblank
    cases hblank
  · have hs : trim s = c :: trimRight rest := by rw [trim, hcons, trimRight_cons hc]
    have hsuffix : c :: rest <:+ s := hcons ▸ List.dropWhile_suffix isBlank
    rw [hs]
    exact ⟨fun _ => ⟨c, hsuffix.subset List.mem_cons_self, hc⟩, fun _ => List.cons_ne_nil _ _⟩

/-! ## First words -/

theorem isBlank_of_dropWhile_eq {c : Char} {s rest : List Char}
    (h : s.dropWhile (!isBlank ·) = c :: rest) : isBlank c = true := by
  have hc := List.head_dropWhile_not (!isBlank ·) (l := s) (by simp [h])
  simpa [h] using hc

/-- A trimmed text is its first word and a rest that begins with a blank, if there is one. What
`splitFirstWord` gives for the rest is trimmed once more. -/
theorem exists_rest_splitFirstWord {s : List Char} (h : trim s = s) :
    ∃ rest, s = (splitFirstWord s).1 ++ rest ∧ trim rest = (splitFirstWord s).2 ∧
      ∀ c ∈ rest.head?, isBlank c = true := by
  rw [splitFirstWord, h]
  refine ⟨s.dropWhile (!isBlank ·), List.takeWhile_append_dropWhile.symm, ?_, ?_⟩
  · cases hrest : s.dropWhile (!isBlank ·) with
    | nil => rfl
    | cons c rest =>
      rw [trim_cons_of_isBlank (isBlank_of_dropWhile_eq hrest), List.drop_one, List.tail_cons]
  · intro c hc
    obtain ⟨rest, hrest⟩ := List.head?_eq_some_iff.mp hc
    exact isBlank_of_dropWhile_eq hrest

theorem splitFirstWord_trim (s : List Char) : splitFirstWord (trim s) = splitFirstWord s := by
  rw [splitFirstWord, trim_trim, splitFirstWord]

/-- A word in front of a blank is the first one, and the rest stands behind the blank. -/
theorem splitFirstWord_append {word : List Char} (hne : word ≠ [])
    (hword : ∀ c ∈ word, isBlank c = false) {c : Char} (hc : isBlank c = true)
    (rest : List Char) : splitFirstWord (word ++ c :: rest) = (word, trim rest) := by
  have htrim : trim (word ++ c :: rest) = word ++ trimRight (c :: rest) := by
    cases word with
    | nil => exact absurd rfl hne
    | cons d word =>
      rw [List.cons_append, trim_cons (hword d List.mem_cons_self),
        trimRight_append fun e he => hword e (List.mem_cons_of_mem d he)]
      rfl
  have hall : ∀ d ∈ word, (!isBlank d) = true := fun d hd => by rw [hword d hd]; rfl
  rw [splitFirstWord, htrim, List.takeWhile_append_of_pos hall, List.dropWhile_append_of_pos hall]
  -- blanks alone are cut off, and otherwise the blank is still there
  cases hright : trimRight (c :: rest) with
  | nil =>
    have hrest : trim rest = [] := by
      rw [← trim_cons_of_isBlank hc, ← trim_trimRight, hright]
      rfl
    rw [hrest]
    simp [trim, trimLeft, trimRight]
  | cons d right =>
    have hprefix : d :: right <+: c :: rest := hright ▸ List.rdropWhile_prefix isBlank _
    obtain ⟨rfl, -⟩ := List.cons_prefix_cons.mp hprefix
    have hrest : trim right = trim rest := by
      rw [← trim_cons_of_isBlank hc, ← hright, trim_trimRight, trim_cons_of_isBlank hc]
    simp [hc, hrest]

/-- The first word ends before the first blank. -/
theorem head?_words_cons {c : Char} (h : isBlank c = false) (s : List Char) :
    (words (c :: s)).head? = some ((c :: s).takeWhile (!isBlank ·)) := by
  induction s generalizing c with
  | nil => simp [words, h]
  | cons d s ih =>
    by_cases hd : isBlank d = true
    · simp [words, h, hd]
    · have hd : isBlank d = false := Bool.eq_false_iff.mpr hd
      -- the character joins the first word of the rest
      have hwords := ih hd
      obtain ⟨others, hothers⟩ := List.head?_eq_some_iff.mp hwords
      rw [words, if_neg (by simp [h]), hothers]
      simp [hd, h, consFirst]

theorem head?_words {s : List Char} (h : trim s = s) (hne : s ≠ []) :
    (words s).head? = some (splitFirstWord s).1 := by
  rw [splitFirstWord, h]
  rcases trimLeft_eq_nil_or s with hnil | ⟨c, rest, hcons, hc⟩
  · rw [← h, trim, hnil] at hne
    exact absurd rfl hne
  · have hs : s = c :: trimRight rest := by rw [← h, trim, hcons, trimRight_cons hc]
    rw [hs]
    exact head?_words_cons hc _

/-! ## Words in front of blanks -/

theorem words_cons_of_isBlank {c : Char} (h : isBlank c = true) (s : List Char) :
    words (c :: s) = words s := by
  rw [words.eq_def]
  exact if_pos h

theorem words_cons_cons {c d : Char} (hc : isBlank c = false) (hd : isBlank d = false)
    (s : List Char) : words (c :: d :: s) = consFirst c (words (d :: s)) := by
  rw [words, if_neg (by simp [hc])]
  exact if_neg (by simp [hd])

/-- A word in front of a blank is the first one, and the others stand behind the blank. -/
theorem words_append {word : List Char} (hne : word ≠ []) (hword : ∀ c ∈ word, isBlank c = false)
    {c : Char} (hc : isBlank c = true) (rest : List Char) :
    words (word ++ c :: rest) = word :: words rest := by
  induction word with
  | nil => exact absurd rfl hne
  | cons d word ih =>
    have hd := hword d List.mem_cons_self
    cases word with
    | nil => simp [words, hd, hc]
    | cons e word =>
      have hwords := ih (List.cons_ne_nil e word) fun c hc => hword c (List.mem_cons_of_mem d hc)
      rw [List.cons_append] at hwords
      rw [List.cons_append, List.cons_append, words_cons_cons hd (hword e (by simp)), hwords,
        consFirst]

/-- A text without blanks is one word. -/
theorem words_of_not_isBlank {word : List Char} (hne : word ≠ [])
    (hword : ∀ c ∈ word, isBlank c = false) : words word = [word] := by
  induction word with
  | nil => exact absurd rfl hne
  | cons d word ih =>
    have hd := hword d List.mem_cons_self
    cases word with
    | nil => simp [words, hd]
    | cons e word =>
      have hwords := ih (List.cons_ne_nil e word) fun c hc => hword c (List.mem_cons_of_mem d hc)
      rw [words_cons_cons hd (hword e (by simp)), hwords, consFirst]

/-! ## Names hold no blank -/

/-- The characters of names by their numbers. -/
theorem isNameChar_eq (c : Char) :
    isNameChar c = (decide ('A'.val ≤ c.val ∧ c.val ≤ 'Z'.val) ||
      ('a'.val ≤ c.val && c.val ≤ 'z'.val) || ('0'.val ≤ c.val && c.val ≤ '9'.val) || c == '_') :=
  rfl

/-- The characters of names lie between the digits and the small letters. -/
theorem toNat_of_isNameChar {c : Char} (h : isNameChar c = true) :
    0x30 ≤ c.toNat ∧ c.toNat ≤ 0x7A := by
  have hval : c.toNat = c.val.toNat := rfl
  simp only [isNameChar_eq, Bool.or_eq_true, Bool.and_eq_true, decide_eq_true_eq, beq_iff_eq,
    UInt32.le_iff_toNat_le] at h
  rcases h with ((⟨hleft, hright⟩ | ⟨hleft, hright⟩) | ⟨hleft, hright⟩) | rfl
  · have hA : 'A'.val.toNat = 0x41 := rfl
    have hZ : 'Z'.val.toNat = 0x5A := rfl
    omega
  · have ha : 'a'.val.toNat = 0x61 := rfl
    have hz : 'z'.val.toNat = 0x7A := rfl
    omega
  · have h0 : '0'.val.toNat = 0x30 := rfl
    have h9 : '9'.val.toNat = 0x39 := rfl
    omega
  · decide

theorem isBlank_of_isNameChar {c : Char} (h : isNameChar c = true) : isBlank c = false := by
  obtain ⟨hleft, hright⟩ := toNat_of_isNameChar h
  rw [Bool.eq_false_iff]
  intro hblank
  simp only [isBlank, Bool.or_eq_true, Bool.and_eq_true, decide_eq_true_eq, beq_iff_eq] at hblank
  omega

theorem all_isNameChar_of_isIdentifier {name : List Char} (h : isIdentifier name = true) :
    ∀ c ∈ name, isNameChar c = true := by
  cases name with
  | nil => exact fun c hc => absurd hc List.not_mem_nil
  | cons first rest =>
    rw [isIdentifier, Bool.and_eq_true, List.all_eq_true] at h
    intro c hc
    rcases List.mem_cons.mp hc with rfl | hc
    · simp [isNameChar, Char.isAlphanum, h.1]
    · exact h.2 c hc

/-- An identifier holds no blank. -/
theorem not_isBlank_of_isIdentifier {name : List Char} (h : isIdentifier name = true) :
    ∀ c ∈ name, isBlank c = false := by
  intro c hc
  exact isBlank_of_isNameChar (all_isNameChar_of_isIdentifier h c hc)

theorem ne_nil_of_isIdentifier {name : List Char} (h : isIdentifier name = true) : name ≠ [] := by
  rintro rfl
  exact Bool.false_ne_true h

end StarterCode.Text
