import StarterCode.Proofs.TypeExpr.RoundTrip

/-!
# How high an accepted type is

The reader promises that no type is nested more than `maxNesting` levels deep, suffixes included,
and the text of a type is meant to be read back as the type. Both hold of an accepted text exactly
when its phrase, with each suffix counted on top of all that stands before it, is no deeper than
`maxNesting`.

They can fail in one place only. The suffixes behind a closing angle bracket are counted from the
level at which the brackets open, so what stands between the brackets is forgotten. Nothing worse
than the sum of the numbers up to `maxNesting` comes out, and that sum is reached: brackets
are opened on every level, and behind each of them stand all the suffixes that its level has room
for.
-/

set_option autoImplicit false

namespace StarterCode.TypeExpr

/-! ## Brackets inside each other -/

/-- The phrase with a number of suffixes behind it. -/
def Phrase.withSuffixes (phrase : Phrase) : Nat → Phrase
  | 0 => phrase
  | n + 1 => .suffixed (phrase.withSuffixes n)

/-- `int` inside `list<...>` once for every number, the outermost first, with that many suffixes
behind it. -/
def bracketed : List Nat → Phrase
  | [] => .word "int".toList
  | n :: ns => (Phrase.sequenceIn "list".toList (bracketed ns)).withSuffixes n

/-- A number of suffixes. -/
def suffixText : Nat → List Char
  | 0 => []
  | n + 1 => '[' :: ']' :: suffixText n

/-- The text of `bracketed`. -/
def bracketedText : List Nat → List Char
  | [] => "int".toList
  | n :: ns => "list".toList ++ '<' :: (bracketedText ns ++ '>' :: suffixText n)

example : bracketedText [2, 0] = "list<list<int>>[][]".toList := by decide

theorem tokens_withSuffixes (phrase : Phrase) (n : Nat) :
    (phrase.withSuffixes n).tokens = phrase.tokens ++ List.replicate n .brackets := by
  induction n with
  | zero => rw [Phrase.withSuffixes, List.replicate_zero, List.append_nil]
  | succ n ih =>
    rw [Phrase.withSuffixes, Phrase.tokens, ih, List.replicate_succ', List.append_assoc]

theorem scan_suffixText (n : Nat) :
    Token.scan (suffixText n) = .ok (List.replicate n .brackets) := by
  induction n with
  | zero => rfl
  | succ n ih => rw [suffixText, Token.scan_brackets ih, List.replicate_succ]

theorem scan_bracketedText (ns : List Nat) :
    Token.scan (bracketedText ns) = .ok (bracketed ns).tokens := by
  induction ns with
  | nil => rfl
  | cons n ns ih =>
    have hsuffixes := Token.scan_rightAngle (scan_suffixText n)
    have hinside := Token.scan_append (by decide) (by decide) ih hsuffixes
    have hword : Token.scan "list".toList = .ok [.word "list".toList] := rfl
    rw [bracketedText, Token.scan_append (by decide) (by decide) hword
      (Token.scan_leftAngle hinside), bracketed, tokens_withSuffixes, Phrase.tokens]
    simp

/-- Suffixes may be put behind something closed. -/
theorem withSuffixes_wellSpelled {phrase : Phrase} (hspell : phrase.WellSpelled)
    (hattached : phrase.Attached) (hterminated : phrase.Terminated) (hclosed : phrase.closed = true)
    (n : Nat) : (phrase.withSuffixes n).WellSpelled ∧ (phrase.withSuffixes n).Attached ∧
      (phrase.withSuffixes n).Terminated ∧ (phrase.withSuffixes n).closed = true := by
  induction n with
  | zero => exact ⟨hspell, hattached, hterminated, hclosed⟩
  | succ n ih =>
    obtain ⟨hspell, hattached, hterminated, hclosed⟩ := ih
    exact ⟨hspell, ⟨hclosed, hattached⟩, hterminated, rfl⟩

theorem suffixes_withSuffixes {phrase : Phrase} (h : phrase.suffixes = 0) (n : Nat) :
    (phrase.withSuffixes n).suffixes = n := by
  induction n with
  | zero => exact h
  | succ n ih => rw [Phrase.withSuffixes, Phrase.suffixes, ih]

/-- Suffixes are counted from the level of what they stand behind. -/
theorem levels_withSuffixes {phrase : Phrase} (h : phrase.suffixes = 0) (n : Nat) :
    (phrase.withSuffixes n).levels = max phrase.levels (n + 1) := by
  induction n with
  | zero =>
    have := phrase.suffixes_lt_levels
    rw [Phrase.withSuffixes]
    omega
  | succ n ih =>
    rw [Phrase.withSuffixes, Phrase.levels, ih, suffixes_withSuffixes h]
    omega

/-- The depth counts them on top of it. -/
theorem nesting_withSuffixes (phrase : Phrase) (n : Nat) :
    (phrase.withSuffixes n).nesting = phrase.nesting + n := by
  induction n with
  | zero => rfl
  | succ n ih => rw [Phrase.withSuffixes, Phrase.nesting, ih, Nat.add_assoc]

theorem bracketed_wellSpelled (ns : List Nat) :
    (bracketed ns).WellSpelled ∧ (bracketed ns).Attached ∧ (bracketed ns).Terminated := by
  induction ns with
  | nil => exact ⟨.inl ⟨.integer, by decide⟩, trivial, trivial⟩
  | cons n ns ih =>
    obtain ⟨hspell, hattached, hterminated⟩ := ih
    have hkeyword : Keyword.ofWord? "list".toList = some .sequence := by decide
    have hinside : (Phrase.sequenceIn "list".toList (bracketed ns)).WellSpelled :=
      ⟨hkeyword, hspell⟩
    obtain ⟨hspell, hattached, hterminated, -⟩ :=
      withSuffixes_wellSpelled hinside hattached hterminated rfl n
    exact ⟨hspell, hattached, hterminated⟩

/-- The height of that type: one for each pair of brackets and one for each suffix. -/
def bracketedHeight : List Nat → Nat
  | [] => 1
  | n :: ns => bracketedHeight ns + 1 + n

theorem nesting_bracketed (ns : List Nat) : (bracketed ns).nesting = bracketedHeight ns := by
  induction ns with
  | nil => rfl
  | cons n ns ih => rw [bracketed, nesting_withSuffixes, Phrase.nesting, ih, bracketedHeight]

theorem levels_bracketed_cons (n : Nat) (ns : List Nat) :
    (bracketed (n :: ns)).levels = max ((bracketed ns).levels + 1) (n + 1) := by
  rw [bracketed, levels_withSuffixes rfl, Phrase.levels]

/-- Brackets inside each other are read if each level has room for its suffixes. -/
theorem parse_bracketedText {ns : List Nat} (h : (bracketed ns).levels ≤ maxNesting) :
    parse (bracketedText ns) = .ok (bracketed ns).type ∧
      (bracketed ns).type.height = bracketedHeight ns := by
  obtain ⟨hspell, hattached, hterminated⟩ := bracketed_wellSpelled ns
  refine ⟨parse_of_scan (scan_bracketedText ns) hspell hattached hterminated h, ?_⟩
  rw [Phrase.height_type _ hspell, nesting_bracketed]

/-! ## The range of heights -/

/-- **The height of what is accepted.** The type that a text denotes is as high as the phrase of the
text is deep. Its own text denotes it again exactly when that is no deeper than `maxNesting`, which
it always is when no suffix stands behind an angle bracket. In any case the sum of the numbers up to
`maxNesting` is not exceeded. -/
theorem exists_phrase_height_eq {text : List Char} {type : ValueType}
    (h : parse text = .ok type) :
    ∃ phrase : Phrase, Token.scan text = .ok phrase.tokens ∧ phrase.WellSpelled ∧
      phrase.type = type ∧ type.height = phrase.nesting ∧
      (parse type.text.toList = .ok type ↔ phrase.nesting ≤ maxNesting) ∧
      (¬ SuffixBehindAngle phrase.tokens → phrase.nesting ≤ maxNesting) ∧
      phrase.nesting ≤ sumTo maxNesting := by
  obtain ⟨phrase, hscan, hspell, hattached, htype, hlevels⟩ := exists_phrase_of_parse h
  have hheight : type.height = phrase.nesting := by rw [← htype, phrase.height_type hspell]
  refine ⟨phrase, hscan, hspell, htype, hheight, ?_, ?_, ?_⟩
  · rw [← hheight]
    exact ⟨height_le_of_parse_text, parse_text_of_proper (proper_of_parse h)⟩
  · intro hnone
    rw [← phrase.levels_eq_nesting hattached hnone]
    exact hlevels
  · exact Nat.le_trans phrase.bounded.nesting_le (sumTo_mono hlevels)

/-- Two suffixes behind angle brackets, with room for them. -/
theorem exists_phrase_height_eq_suffixes :
    ∃ phrase : Phrase, Token.scan "list<list<int>>[][]".toList = .ok phrase.tokens ∧
      phrase.WellSpelled ∧ phrase.type = .array (.array (.array (.array .integer))) ∧
      (ValueType.array (.array (.array (.array .integer)))).height = phrase.nesting ∧
      (parse (ValueType.array (.array (.array (.array .integer)))).text.toList =
          .ok (.array (.array (.array (.array .integer)))) ↔
        phrase.nesting ≤ maxNesting) ∧
      (¬ SuffixBehindAngle phrase.tokens → phrase.nesting ≤ maxNesting) ∧
      phrase.nesting ≤ sumTo maxNesting := by
  have hparse : parse "list<list<int>>[][]".toList =
      .ok (.array (.array (.array (.array .integer)))) :=
    (@parse_bracketedText [2, 0] (by decide)).1
  exact exists_phrase_height_eq hparse

/-- Brackets on all levels but the last and one suffix behind them: the text is accepted, its type
is higher than `maxNesting`, and the text of the type is not read back. -/
theorem exists_parse_height_gt :
    ∃ type : ValueType,
      parse ((List.replicate 63 "list<".toList).flatten ++ "int".toList ++ List.replicate 63 '>' ++
        "[]".toList) = .ok type ∧
      maxNesting < type.height ∧ parse type.text.toList ≠ .ok type := by
  have htext : bracketedText (1 :: List.replicate 62 0) =
      (List.replicate 63 "list<".toList).flatten ++ "int".toList ++ List.replicate 63 '>' ++
        "[]".toList := by decide +kernel
  have hlevels : (bracketed (1 :: List.replicate 62 0)).levels ≤ maxNesting := by decide +kernel
  obtain ⟨hparse, hheight⟩ := parse_bracketedText hlevels
  have hhigh : maxNesting < (bracketed (1 :: List.replicate 62 0)).type.height := by
    rw [hheight]
    decide
  refine ⟨_, htext ▸ hparse, hhigh, ?_⟩
  intro h
  exact Nat.not_le_of_lt hhigh (height_le_of_parse_text h)

/-- On every level the number of suffixes that it has room for. -/
def rooms : Nat → List Nat
  | 0 => []
  | n + 1 => (n + 1) :: rooms n

theorem levels_bracketed_rooms (n : Nat) : (bracketed (rooms n)).levels = n + 1 := by
  induction n with
  | zero => rfl
  | succ n ih =>
    rw [rooms, levels_bracketed_cons, ih]
    omega

theorem bracketedHeight_rooms (n : Nat) : bracketedHeight (rooms n) = sumTo (n + 1) := by
  induction n with
  | zero => rfl
  | succ n ih =>
    rw [rooms, bracketedHeight, ih, sumTo.eq_2 (n + 1)]
    omega

/-- **The bound is reached.** With `n + 1` levels there is an accepted text whose type is as high as
the sum of the numbers up to `n + 1`. -/
theorem exists_parse_height_eq_sumTo {n : Nat} (h : n + 1 ≤ maxNesting) :
    ∃ text type, parse text = .ok type ∧ type.height = sumTo (n + 1) := by
  have hlevels : (bracketed (rooms n)).levels ≤ maxNesting := by
    rw [levels_bracketed_rooms]
    exact h
  obtain ⟨hparse, hheight⟩ := parse_bracketedText hlevels
  exact ⟨_, _, hparse, hheight.trans (bracketedHeight_rooms n)⟩

end StarterCode.TypeExpr
