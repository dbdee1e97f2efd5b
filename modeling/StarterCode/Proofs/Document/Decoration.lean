import StarterCode.Proofs.Document.Entries

/-!
# Decorated lines

What is taken off at the front of a line is decoration: blanks, heading marks, bullets and bold
marks. No label begins with such a character, so a label does not begin in the decoration of its
line (`exists_decoration`).

Behind a label stands its colon, or bold marks and the colon. The first is how a search for the
label with its colon finds the line, and the second is how it misses it.
-/

set_option autoImplicit false

namespace StarterCode.Document

/-! ## In front of the label -/

/-- A character that may decorate a line. -/
def IsDecoration (c : Char) : Prop :=
  Text.isBlank c = true ∨ c ∈ ['#', '-', '*', '+']

/-- Nothing but decoration has been taken off at the front of the text. -/
def Stripped (text rest : List Char) : Prop :=
  ∃ front, text = front ++ rest ∧ ∀ c ∈ front, IsDecoration c

theorem Stripped.refl (text : List Char) : Stripped text text :=
  ⟨[], rfl, fun _ hc => absurd hc List.not_mem_nil⟩

theorem Stripped.trans {text rest rest' : List Char} (h : Stripped text rest)
    (h' : Stripped rest rest') : Stripped text rest' := by
  obtain ⟨front, rfl, hfront⟩ := h
  obtain ⟨front', rfl, hfront'⟩ := h'
  refine ⟨front ++ front', (List.append_assoc _ _ _).symm, ?_⟩
  intro c hc
  rcases List.mem_append.mp hc with hc | hc
  · exact hfront c hc
  · exact hfront' c hc

theorem stripped_dropWhile {p : Char → Bool} (h : ∀ c, p c = true → IsDecoration c)
    (text : List Char) : Stripped text (text.dropWhile p) := by
  refine ⟨text.takeWhile p, List.takeWhile_append_dropWhile.symm, ?_⟩
  intro c hc
  exact h c (List.all_eq_true.mp List.all_takeWhile c hc)

theorem stripped_trimLeft (text : List Char) : Stripped text (Text.trimLeft text) :=
  stripped_dropWhile (fun _ hc => .inl hc) text

theorem stripped_dropPrefix {pre : List Char} (h : ∀ c ∈ pre, IsDecoration c)
    (text : List Char) : Stripped text (Text.dropPrefix pre text) := by
  rw [Text.dropPrefix]
  cases hrest : pre.isPrefixOf? text with
  | none => exact Stripped.refl text
  | some rest => exact ⟨pre, (List.isPrefixOf?_eq_some_iff_append_eq.mp hrest).symm, h⟩

theorem stripped_withoutBullet (text : List Char) : Stripped text (withoutBullet text) := by
  rw [withoutBullet]
  cases hfound : bullets.findSome? (·.isPrefixOf? text) with
  | none => exact Stripped.refl text
  | some rest =>
    obtain ⟨bullet, hbullet, hrest⟩ := List.exists_of_findSome?_eq_some hfound
    have hmarks : ∀ bullet ∈ bullets, ∀ c ∈ bullet,
        Text.isBlank c = true ∨ c ∈ ['#', '-', '*', '+'] := by
      simp [bullets, Text.isBlank]
    have hfirst : Stripped text rest :=
      ⟨bullet, (List.isPrefixOf?_eq_some_iff_append_eq.mp hrest).symm, hmarks bullet hbullet⟩
    exact hfirst.trans (stripped_trimLeft rest)

/-- In front of what is left of a line stands decoration. -/
theorem exists_decoration (line : List Char) :
    ∃ front, line = front ++ undecorated line ∧ ∀ c ∈ front, IsDecoration c := by
  have hbold : ∀ c ∈ bold, IsDecoration c := by
    simp [bold, IsDecoration]
  have hheading : ∀ c, (c == '#') = true → IsDecoration c := by
    intro c hc
    rw [beq_iff_eq.mp hc]
    exact .inr List.mem_cons_self
  exact (((stripped_trimLeft line).trans (stripped_dropWhile hheading _)).trans
    (stripped_trimLeft _)).trans ((stripped_withoutBullet _).trans (stripped_dropPrefix hbold _))

/-! ## Behind the label -/

/-- The line carries the label. -/
def Carries (label : Label) (line : List Char) : Prop :=
  (classifyLine line).map (·.1) = some label

instance (label : Label) (line : List Char) : Decidable (Carries label line) := by
  unfold Carries
  infer_instance

theorem carries_iff {label : Label} {line : List Char} :
    Carries label line ↔ ∃ value, classifyLine line = some (label, value) := by
  rw [Carries, Option.map_eq_some_iff]
  constructor
  · rintro ⟨⟨label, value⟩, hclassify, rfl⟩
    exact ⟨value, hclassify⟩
  · rintro ⟨value, hclassify⟩
    exact ⟨(label, value), hclassify, rfl⟩

/-- Between the label at the front of a line and its colon stand bold marks. -/
def MarkedColon (label : Label) (line : List Char) : Prop :=
  (label.text ++ "**:").toList <+: undecorated line

instance (label : Label) (line : List Char) : Decidable (MarkedColon label line) := by
  unfold MarkedColon
  infer_instance

/-- A line that carries a label is decoration, the label, bold marks or none, a colon, and what the
value is taken from. -/
theorem exists_rest_of_classifyLine {label : Label} {line value : List Char}
    (h : classifyLine line = some (label, value)) :
    ∃ marks rest, (marks = bold ∨ marks = []) ∧
      undecorated line = label.text.toList ++ (marks ++ ':' :: rest) ∧
      Text.trim (Text.dropPrefix bold rest) = value := by
  obtain ⟨found, -, hfound⟩ := List.exists_of_findSome?_eq_some h
  obtain ⟨_, hvalue, heq⟩ := Option.map_eq_some_iff.mp hfound
  obtain ⟨rfl, rfl⟩ := Prod.mk.inj heq
  rw [valueOf?, Option.bind_eq_bind, Option.bind_eq_some_iff] at hvalue
  obtain ⟨behind, hlabel, hvalue⟩ := hvalue
  rw [Option.bind_eq_some_iff] at hvalue
  obtain ⟨rest, hcolon, hvalue⟩ := hvalue
  rw [List.isPrefixOf?_eq_some_iff_append_eq] at hlabel hcolon
  cases hmarks : bold.isPrefixOf? behind with
  | none =>
    have hbehind : Text.dropPrefix bold behind = behind := by rw [Text.dropPrefix, hmarks]; rfl
    rw [hbehind] at hcolon
    exact ⟨[], rest, .inr rfl, by rw [← hlabel, ← hcolon]; rfl, Option.some.inj hvalue⟩
  | some unmarked =>
    have hbehind : Text.dropPrefix bold behind = unmarked := by rw [Text.dropPrefix, hmarks]; rfl
    rw [hbehind] at hcolon
    rw [List.isPrefixOf?_eq_some_iff_append_eq] at hmarks
    exact ⟨bold, rest, .inl rfl, by rw [← hlabel, ← hmarks, ← hcolon]; rfl,
      Option.some.inj hvalue⟩

theorem exists_of_classifyLine {label : Label} {line value : List Char}
    (h : classifyLine line = some (label, value)) :
    ∃ rest, (MarkedColon label line ∨ undecorated line = (label.text ++ ":").toList ++ rest) ∧
      Text.trim (Text.dropPrefix bold rest) = value := by
  obtain ⟨marks, rest, hmarks, hline, hvalue⟩ := exists_rest_of_classifyLine h
  refine ⟨rest, ?_, hvalue⟩
  rw [MarkedColon, hline, String.toList_append, String.toList_append, List.append_assoc]
  rcases hmarks with rfl | rfl
  · exact .inl ⟨rest, List.append_assoc _ _ _⟩
  · exact .inr rfl

/-- The values behind a label are those of the lines that carry it. -/
theorem mem_valuesOf_iff {text value : String} {label : Label} :
    value ∈ valuesOf (labelledLines text) label ↔
      ∃ line ∈ Text.lines text.toList, classifyLine line = some (label, value.toList) := by
  rw [valuesOf, List.mem_map]
  constructor
  · rintro ⟨found, hfound, rfl⟩
    obtain ⟨hmem, hlabel⟩ := List.mem_filter.mp hfound
    obtain ⟨i, line, hline, hclassify, -⟩ := mem_labelledFrom.mp hmem
    rw [← beq_iff_eq.mp hlabel]
    exact ⟨line, List.mem_of_getElem? hline, hclassify⟩
  · rintro ⟨line, hline, hclassify⟩
    obtain ⟨i, hi⟩ := List.getElem?_of_mem hline
    refine ⟨⟨label, value, 1 + i⟩, List.mem_filter.mpr ⟨?_, beq_self_eq_true label⟩, rfl⟩
    exact mem_labelledFrom.mpr ⟨i, line, hi, hclassify, rfl⟩

end StarterCode.Document
