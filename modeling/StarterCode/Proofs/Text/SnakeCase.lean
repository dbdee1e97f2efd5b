import Mathlib.Data.List.Chain
import StarterCode.Proofs.Text.Blank
import StarterCode.Proofs.Text.LetterCase
import StarterCode.Text.SnakeCase

/-!
# Names in snake case

A name in snake case is the name as it was given, cut into words, with the words in small letters
and joined by underscores (`exists_words_snakeCase`). Where a word ends and the next one begins
there are a letter or a digit and a capital, so no underscore is put at an end of the name or beside
another one. And a capital behind a small letter or a digit always begins a word.

All else follows from this. Small letters and underscores are all that is new, so without
underscores the name is the one given in small letters, and in snake case it stays as it is.
-/

set_option autoImplicit false

namespace StarterCode.Text

/-! ## Words -/

/-- The first word ends in a letter or a digit, and the second one begins with a capital. -/
def MeetAtCapital (word next : List Char) : Prop :=
  ∃ b ∈ word.getLast?, ∃ c ∈ next.head?, b.isAlphanum = true ∧ c.isUpper = true

/-- In the text no capital stands behind a small letter or a digit. -/
def Unbroken (word : List Char) : Prop :=
  word.IsChain fun b c => c.isUpper = true → b.isLower = false ∧ b.isDigit = false

/-- Words in small letters, joined by underscores. -/
def joinedSmall (words : List (List Char)) : List Char :=
  ['_'].intercalate (words.map fun word => word.map Char.toLower)

theorem joinedSmall_cons_cons (word next : List Char) (words : List (List Char)) :
    joinedSmall (word :: next :: words) =
      word.map Char.toLower ++ '_' :: joinedSmall (next :: words) := by
  rw [joinedSmall, List.map_cons, List.map_cons, List.intercalate_cons_cons, List.append_assoc]
  rfl

/-- A character at the front of the first word comes first. -/
theorem joinedSmall_cons_front (c : Char) (word : List Char) (words : List (List Char)) :
    joinedSmall ((c :: word) :: words) = c.toLower :: joinedSmall (word :: words) := by
  cases words with
  | nil => simp [joinedSmall]
  | cons next words => rw [joinedSmall_cons_cons, joinedSmall_cons_cons]; rfl

/-- A capital that begins a word stands behind a letter or a digit. -/
theorem isAlphanum_of_beginsWord {b : Char} {after : Option Char}
    (h : beginsWord (some b) after = true) : b.isAlphanum = true := by
  rw [beginsWord] at h
  change ((b.isUpper || b.isLower) || b.isDigit) = true
  split at h
  · next hsmall =>
    rcases (Bool.or_eq_true _ _).mp hsmall with hlower | hdigit
    · rw [hlower, Bool.or_true, Bool.true_or]
    · rw [hdigit, Bool.or_true]
  · rw [((Bool.and_eq_true _ _).mp h).1, Bool.true_or, Bool.true_or]

/-- A capital behind a small letter or a digit begins a word. -/
theorem small_of_not_beginsWord {b : Char} {after : Option Char}
    (h : beginsWord (some b) after = false) : b.isLower = false ∧ b.isDigit = false := by
  rw [beginsWord] at h
  split at h
  · cases h
  · next hsmall =>
    rw [Bool.not_eq_true, Bool.or_eq_false_iff] at hsmall
    exact hsmall

/-- The underscore that is put in front of the first character of a text, if any is. -/
def leadingMark (before : Option Char) : List Char → List Char
  | [] => []
  | c :: rest => if c.isUpper && beginsWord before rest.head? then ['_'] else []

theorem snakeCaseAfter_cons (before : Option Char) (c : Char) (rest : List Char) :
    snakeCaseAfter before (c :: rest) =
      leadingMark before (c :: rest) ++ c.toLower :: snakeCaseAfter (some c) rest := by
  rw [snakeCaseAfter, leadingMark]
  by_cases hupper : c.isUpper = true
  · by_cases hword : beginsWord before rest.head? = true
    · simp [hupper, hword]
    · simp [hupper, hword]
  · simp [hupper, toLower_of_not_isUpper (eq_false_of_ne_true hupper)]

/-- Behind the underscore that its first character may need, a text is its words joined. -/
theorem exists_words_snakeCaseAfter (before : Option Char) (c : Char) (rest : List Char) :
    ∃ word words, ((c :: word) :: words).flatten = c :: rest ∧
      snakeCaseAfter before (c :: rest) =
        leadingMark before (c :: rest) ++ joinedSmall ((c :: word) :: words) ∧
      ((c :: word) :: words).IsChain MeetAtCapital ∧
      ∀ one ∈ (c :: word) :: words, Unbroken one := by
  induction rest generalizing before c with
  | nil =>
    refine ⟨[], [], rfl, snakeCaseAfter_cons before c [], .singleton _, ?_⟩
    intro one hone
    rw [List.mem_singleton.mp hone]
    exact .singleton c
  | cons d rest ih =>
    obtain ⟨word, words, hflatten, hjoined, hchain, hunbroken⟩ := ih (some c) d
    rw [snakeCaseAfter_cons before, hjoined]
    by_cases hmark : d.isUpper = true ∧ beginsWord (some c) rest.head? = true
    · -- the next character begins a word, so this one is a word of its own
      have hleading : leadingMark (some c) (d :: rest) = ['_'] := by
        rw [leadingMark, hmark.1, hmark.2]
        rfl
      refine ⟨[], (d :: word) :: words, ?_, ?_, ?_, ?_⟩
      · rw [List.flatten_cons, hflatten]
        rfl
      · rw [hleading, joinedSmall_cons_cons]
        rfl
      · rw [List.isChain_cons_cons]
        exact ⟨⟨c, rfl, d, rfl, isAlphanum_of_beginsWord hmark.2, hmark.1⟩, hchain⟩
      · exact List.forall_mem_cons.mpr ⟨.singleton c, hunbroken⟩
    · -- the next character goes on with the word of this one
      have hleading : leadingMark (some c) (d :: rest) = [] := by
        rw [leadingMark, if_neg]
        rwa [Bool.and_eq_true]
      obtain ⟨hfirst, hothers⟩ := List.forall_mem_cons.mp hunbroken
      refine ⟨d :: word, words, ?_, ?_, ?_, ?_⟩
      · rw [List.flatten_cons, List.cons_append, ← List.flatten_cons, hflatten]
      · rw [hleading, joinedSmall_cons_front c]
        rfl
      · rw [List.isChain_cons] at hchain ⊢
        refine ⟨?_, hchain.2⟩
        intro next hnext
        obtain ⟨b, hb, hmeet⟩ := hchain.1 next hnext
        exact ⟨b, by rwa [List.getLast?_cons_cons], hmeet⟩
      · refine List.forall_mem_cons.mpr ⟨List.isChain_cons_cons.mpr ⟨?_, hfirst⟩, hothers⟩
        intro hupper
        exact small_of_not_beginsWord (Bool.eq_false_iff.mpr fun hword => hmark ⟨hupper, hword⟩)

/-- **A name in snake case** is made of the words of the name. -/
theorem exists_words_snakeCase (name : List Char) :
    ∃ words : List (List Char), words.flatten = name ∧ snakeCase name = joinedSmall words ∧
      words.IsChain MeetAtCapital ∧ ∀ word ∈ words, Unbroken word := by
  cases name with
  | nil => exact ⟨[], rfl, rfl, .nil, by simp⟩
  | cons c rest =>
    obtain ⟨word, words, hflatten, hjoined, hchain, hunbroken⟩ :=
      exists_words_snakeCaseAfter none c rest
    refine ⟨(c :: word) :: words, hflatten, ?_, hchain, hunbroken⟩
    -- there is nothing in front of a name
    rw [snakeCase, hjoined, leadingMark, beginsWord, Bool.and_false]
    rfl

/-! ## Letters -/

/-- A character of joined words is an underscore or a character of a word in small letters. -/
theorem mem_joinedSmall {words : List (List Char)} {c : Char} (h : c ∈ joinedSmall words) :
    c = '_' ∨ ∃ d ∈ words.flatten, c = d.toLower := by
  induction words with
  | nil => cases h
  | cons word words ih =>
    have hword : c ∈ word.map Char.toLower → ∃ d ∈ (word :: words).flatten, c = d.toLower := by
      intro hmem
      obtain ⟨d, hd, rfl⟩ := List.mem_map.mp hmem
      exact ⟨d, List.mem_append_left _ hd, rfl⟩
    cases words with
    | nil => exact .inr (hword (by simpa [joinedSmall] using h))
    | cons next words =>
      rw [joinedSmall_cons_cons, List.mem_append, List.mem_cons] at h
      rcases h with h | rfl | h
      · exact .inr (hword h)
      · exact .inl rfl
      · refine (ih h).imp id ?_
        rintro ⟨d, hd, rfl⟩
        exact ⟨d, List.mem_append_right _ hd, rfl⟩

/-- Without underscores, joined words are the words one after the other. -/
theorem filter_joinedSmall (words : List (List Char)) :
    (joinedSmall words).filter (· != '_') =
      (words.flatten.map Char.toLower).filter (· != '_') := by
  induction words with
  | nil => rfl
  | cons word words ih =>
    rw [List.flatten_cons, List.map_append, List.filter_append, ← ih]
    cases words with
    | nil => simp [joinedSmall]
    | cons next words => rw [joinedSmall_cons_cons, List.filter_append]; rfl

/-- A character of a name in snake case is an underscore or a character of the name in small
letters. -/
theorem mem_snakeCase {name : List Char} {c : Char} (h : c ∈ snakeCase name) :
    c = '_' ∨ ∃ d ∈ name, c = d.toLower := by
  obtain ⟨words, hflatten, hjoined, -⟩ := exists_words_snakeCase name
  rw [hjoined] at h
  rw [← hflatten]
  exact mem_joinedSmall h

theorem not_isUpper_of_mem_snakeCase {name : List Char} :
    ∀ c ∈ snakeCase name, c.isUpper = false := by
  intro c hc
  rcases mem_snakeCase hc with rfl | ⟨d, -, rfl⟩
  · decide
  · exact isUpper_toLower d

/-- A name without capitals is in snake case already. -/
theorem snakeCaseAfter_of_not_isUpper {name : List Char} (h : ∀ c ∈ name, c.isUpper = false)
    (before : Option Char) : snakeCaseAfter before name = name := by
  induction name generalizing before with
  | nil => rfl
  | cons c name ih =>
    have hsmall : ¬ c.isUpper = true := by simp [h c List.mem_cons_self]
    rw [snakeCaseAfter, if_neg hsmall, ih fun d hd => h d (List.mem_cons_of_mem c hd)]

/-- An identifier in snake case is one. -/
theorem isIdentifier_snakeCase {name : List Char} (h : isIdentifier name = true) :
    isIdentifier (snakeCase name) = true := by
  have hall : ∀ c ∈ snakeCase name, isNameChar c = true := by
    intro c hc
    rcases mem_snakeCase hc with rfl | ⟨d, hd, rfl⟩
    · decide
    · rw [isNameChar_toLower]
      exact all_isNameChar_of_isIdentifier h d hd
  cases name with
  | nil => exact h
  | cons c rest =>
    rw [isIdentifier, Bool.and_eq_true] at h
    have hfirst : snakeCase (c :: rest) = c.toLower :: snakeCaseAfter (some c) rest := by
      rw [snakeCase, snakeCaseAfter_cons, leadingMark, beginsWord, Bool.and_false]
      rfl
    rw [hfirst] at hall ⊢
    rw [isIdentifier, Bool.and_eq_true, isAlpha_toLower, List.all_eq_true]
    exact ⟨h.1, fun d hd => hall d (List.mem_cons_of_mem _ hd)⟩

/-- **Snake case.** A name in snake case has no capital and is in snake case for good. Up to
underscores it is the name in small letters. It is made of the words of the name, with an underscore
between each word and the next, where a letter or a digit and a capital meet; in no word a capital
follows a small letter or a digit. An identifier stays one. -/
theorem snakeCase_separates (name : List Char) :
    (∀ c ∈ snakeCase name, c.isUpper = false) ∧
    snakeCase (snakeCase name) = snakeCase name ∧
    (snakeCase name).filter (· != '_') = (name.map Char.toLower).filter (· != '_') ∧
    (∃ words : List (List Char), words.flatten = name ∧
      snakeCase name = ['_'].intercalate (words.map fun word => word.map Char.toLower) ∧
      words.IsChain MeetAtCapital ∧ ∀ word ∈ words, Unbroken word) ∧
    (isIdentifier name = true → isIdentifier (snakeCase name) = true) := by
  obtain ⟨words, hflatten, hjoined, hchain, hunbroken⟩ := exists_words_snakeCase name
  refine ⟨not_isUpper_of_mem_snakeCase,
    snakeCaseAfter_of_not_isUpper not_isUpper_of_mem_snakeCase none, ?_,
    ⟨words, hflatten, hjoined, hchain, hunbroken⟩, isIdentifier_snakeCase⟩
  rw [hjoined, filter_joinedSmall, hflatten]

/-- An identifier with a run of capitals, a digit and underscores. -/
theorem snakeCase_separates_mixed :
    isIdentifier "parseURL_X2Go".toList = true ∧
      isIdentifier (snakeCase "parseURL_X2Go".toList) = true ∧
      snakeCase "parseURL_X2Go".toList = "parse_url_x2_go".toList := by
  have hname : isIdentifier "parseURL_X2Go".toList = true := by decide
  exact ⟨hname, (snakeCase_separates _).2.2.2.2 hname, by decide⟩

end StarterCode.Text
