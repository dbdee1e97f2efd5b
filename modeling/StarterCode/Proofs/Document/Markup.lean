import StarterCode.Proofs.Document.Decoration
import StarterCode.Proofs.Text.Joined

/-!
# The parts of a labelled line

A line that carries a label is indentation, heading marks, a bullet, bold marks, the label, its
colon and a rest from which the value is taken. All parts but label and colon may be missing, and
the colon may have bold marks on either side. `LabelledAs` puts a line together from such parts,
without saying how they are found.

They are found from left to right, each part being taken as far as it goes, with no way back. This
misses nothing (`undecorated_append`), because of what the parts begin with. Blanks, heading marks
and letters are different characters. A star begins a bullet as well as bold marks, but behind it a
bullet has a blank and bold marks have a star. Only behind the colon could a star be taken for one
or the other, as bold marks or as the beginning of the value, and there bold marks come first.
-/

set_option autoImplicit false

namespace StarterCode.Document

/-! ## Parts -/

/-- Bold marks, or nothing in their place. -/
def MayBeBold (marks : List Char) : Prop :=
  marks = [] ∨ marks = bold

/-- A bullet of a list with blanks behind it, or nothing in its place. -/
def MayBeBullet (text : List Char) : Prop :=
  text = [] ∨ ∃ bullet ∈ bullets, ∃ gap, (∀ c ∈ gap, Text.isBlank c = true) ∧ text = bullet ++ gap

/-- What may stand in front of a label. -/
structure Front where
  /-- The blanks at the beginning of the line. -/
  indent : List Char
  /-- The heading marks. -/
  heading : List Char
  /-- The blanks behind the heading marks. -/
  gap : List Char
  /-- The bullet and the blanks behind it. -/
  bullet : List Char
  /-- The bold marks that open at the label. -/
  opening : List Char
  indent_blank : ∀ c ∈ indent, Text.isBlank c = true
  heading_eq : ∀ c ∈ heading, c = '#'
  gap_blank : ∀ c ∈ gap, Text.isBlank c = true
  bullet_mayBe : MayBeBullet bullet
  opening_mayBe : MayBeBold opening

/-- The parts in their order. -/
def Front.text (front : Front) : List Char :=
  front.indent ++ (front.heading ++ (front.gap ++ (front.bullet ++ front.opening)))

/-- The line carries the label with the value: it is a front, the label, a colon that may have bold
marks on both sides, and a rest that is the value when it is trimmed. Bold marks behind the colon
are not part of the rest. -/
def LabelledAs (line : List Char) (label : Label) (value : List Char) : Prop :=
  ∃ (front : Front) (inner outer rest : List Char), MayBeBold inner ∧ MayBeBold outer ∧
    line = front.text ++ (label.text.toList ++ (inner ++ ':' :: (outer ++ rest))) ∧
    (outer = [] → ¬ bold <+: rest) ∧ Text.trim rest = value

/-! ## Bold marks -/

/-- Bold marks are taken off, provided that none follow where there are none. -/
theorem dropPrefix_bold_append {marks rest : List Char} (hmarks : MayBeBold marks)
    (hrest : marks = [] → ¬ bold <+: rest) : Text.dropPrefix bold (marks ++ rest) = rest := by
  rw [Text.dropPrefix]
  rcases hmarks with rfl | rfl
  · have hnone : bold.isPrefixOf? rest = none := by
      rw [Option.eq_none_iff_forall_ne_some]
      intro behind hbehind
      exact hrest rfl ⟨behind, List.isPrefixOf?_eq_some_iff_append_eq.mp hbehind⟩
    rw [List.nil_append, hnone, Option.getD_none]
  · rw [List.isPrefixOf?_eq_some_iff_append_eq.mpr rfl, Option.getD_some]

/-- What is taken off are bold marks, all that there are up to two. -/
theorem exists_marks (text : List Char) :
    ∃ marks, MayBeBold marks ∧ text = marks ++ Text.dropPrefix bold text ∧
      (marks = [] → ¬ bold <+: Text.dropPrefix bold text) := by
  rw [Text.dropPrefix]
  cases hrest : bold.isPrefixOf? text with
  | none =>
    refine ⟨[], .inl rfl, rfl, ?_⟩
    rintro - ⟨behind, hbehind⟩
    rw [Option.getD_none] at hbehind
    rw [List.isPrefixOf?_eq_some_iff_append_eq.mpr hbehind] at hrest
    cases hrest
  | some rest =>
    refine ⟨bold, .inr rfl, ?_, fun hnil => absurd hnil (List.cons_ne_nil _ _)⟩
    rw [Option.getD_some, List.isPrefixOf?_eq_some_iff_append_eq.mp hrest]

/-! ## In front of the label -/

/-- Nothing is dropped where the first character is of another kind. -/
theorem dropWhile_of_head {p : Char → Bool} {rest : List Char}
    (hrest : ∀ c ∈ rest.head?, p c = false) : rest.dropWhile p = rest := by
  cases rest with
  | nil => rfl
  | cons c rest => rw [List.dropWhile_cons, hrest c rfl, if_neg Bool.false_ne_true]

/-- The characters of the kind at the front are dropped, and the first one of another kind stops. -/
theorem dropWhile_append_of_head {p : Char → Bool} {front rest : List Char}
    (hfront : ∀ c ∈ front, p c = true) (hrest : ∀ c ∈ rest.head?, p c = false) :
    (front ++ rest).dropWhile p = rest := by
  rw [List.dropWhile_append_of_pos hfront, dropWhile_of_head hrest]

/-- A bullet is taken off together with the blanks behind it. -/
theorem withoutBullet_append {bullet rest : List Char} (hbullet : MayBeBullet bullet)
    (hblank : ∀ c ∈ rest.head?, Text.isBlank c = false)
    (hnone : ∀ other ∈ bullets, ¬ other <+: rest) : withoutBullet (bullet ++ rest) = rest := by
  rw [withoutBullet]
  rcases hbullet with rfl | ⟨mark, hmark, gap, hgap, rfl⟩
  · have hmissing : bullets.findSome? (·.isPrefixOf? rest) = none := by
      rw [List.findSome?_eq_none_iff]
      intro other hother
      rw [Option.eq_none_iff_forall_ne_some]
      intro behind hbehind
      exact hnone other hother ⟨behind, List.isPrefixOf?_eq_some_iff_append_eq.mp hbehind⟩
    rw [List.nil_append, hmissing]
  · have hfound : bullets.findSome? (·.isPrefixOf? (mark ++ gap ++ rest)) = some (gap ++ rest) := by
      rw [bullets, List.mem_cons, List.mem_cons, List.mem_singleton] at hmark
      rcases hmark with rfl | rfl | rfl <;> rfl
    rw [hfound]
    exact dropWhile_append_of_head hgap hblank

/-- What is taken off is a bullet with the blanks behind it. -/
theorem exists_bullet (text : List Char) :
    ∃ bullet, MayBeBullet bullet ∧ text = bullet ++ withoutBullet text := by
  rw [withoutBullet]
  cases hfound : bullets.findSome? (·.isPrefixOf? text) with
  | none => exact ⟨[], .inl rfl, rfl⟩
  | some rest =>
    obtain ⟨mark, hmark, hrest⟩ := List.exists_of_findSome?_eq_some hfound
    refine ⟨mark ++ rest.takeWhile Text.isBlank, .inr ⟨mark, hmark, _, ?_, rfl⟩, ?_⟩
    · exact List.all_eq_true.mp List.all_takeWhile
    · rw [← List.isPrefixOf?_eq_some_iff_append_eq.mp hrest, List.append_assoc]
      exact congrArg (mark ++ ·) List.takeWhile_append_dropWhile.symm

/-- In front of what is left of a line stand the parts of a front. -/
theorem exists_front (line : List Char) :
    ∃ front : Front, line = front.text ++ undecorated line := by
  obtain ⟨bullet, hbullet, htext⟩ :=
    exists_bullet (Text.trimLeft ((Text.trimLeft line).dropWhile (· == '#')))
  obtain ⟨opening, hopening, hbody, -⟩ := exists_marks
    (withoutBullet (Text.trimLeft ((Text.trimLeft line).dropWhile (· == '#'))))
  refine ⟨{
    indent := line.takeWhile Text.isBlank
    heading := (Text.trimLeft line).takeWhile (· == '#')
    gap := ((Text.trimLeft line).dropWhile (· == '#')).takeWhile Text.isBlank
    bullet := bullet
    opening := opening
    indent_blank := List.all_eq_true.mp List.all_takeWhile
    heading_eq := fun c hc => beq_iff_eq.mp (List.all_eq_true.mp List.all_takeWhile c hc)
    gap_blank := List.all_eq_true.mp List.all_takeWhile
    bullet_mayBe := hbullet
    opening_mayBe := hopening }, ?_⟩
  rw [Front.text, undecorated]
  simp only [List.append_assoc]
  rw [← hbody, ← htext, Text.trimLeft, Text.trimLeft, List.takeWhile_append_dropWhile,
    List.takeWhile_append_dropWhile, List.takeWhile_append_dropWhile]

/-- A bullet, bold marks and a text without decoration begin with something that is neither a blank
nor a heading mark. -/
theorem head?_marked {bullet opening body : List Char} (hbullet : MayBeBullet bullet)
    (hopening : MayBeBold opening) (hbody : ∀ c ∈ body.head?, ¬ IsDecoration c) :
    ∀ c ∈ (bullet ++ (opening ++ body)).head?, Text.isBlank c = false ∧ (c == '#') = false := by
  have hmarks : ∀ c ∈ ['-', '*', '+'], Text.isBlank c = false ∧ (c == '#') = false := by
    simp only [List.forall_mem_cons, List.not_mem_nil, false_implies, implies_true]
    decide
  intro c hc
  rcases hbullet with rfl | ⟨mark, hmark, gap, -, rfl⟩
  · rcases hopening with rfl | rfl
    · have hplain := not_or.mp (hbody c hc)
      refine ⟨Bool.eq_false_iff.mpr hplain.1, ?_⟩
      rw [beq_eq_false_iff_ne]
      rintro rfl
      exact hplain.2 List.mem_cons_self
    · cases hc
      exact hmarks '*' (by decide)
  · rw [bullets, List.mem_cons, List.mem_cons, List.mem_singleton] at hmark
    rcases hmark with rfl | rfl | rfl
    all_goals
      cases hc
      exact hmarks _ (by decide)

/-- Indentation, heading marks and the blanks behind them are taken off. Without heading marks both
stretches of blanks are one. -/
theorem unheaded_append {indent heading gap rest : List Char}
    (hindent : ∀ c ∈ indent, Text.isBlank c = true) (hheading : ∀ c ∈ heading, c = '#')
    (hgap : ∀ c ∈ gap, Text.isBlank c = true)
    (hrest : ∀ c ∈ rest.head?, Text.isBlank c = false ∧ (c == '#') = false) :
    Text.trimLeft ((Text.trimLeft (indent ++ (heading ++ (gap ++ rest)))).dropWhile (· == '#')) =
      rest := by
  have hblank : ∀ c ∈ rest.head?, Text.isBlank c = false := fun c hc => (hrest c hc).1
  cases heading with
  | nil =>
    have hblanks : ∀ c ∈ indent ++ gap, Text.isBlank c = true :=
      List.forall_mem_append.mpr ⟨hindent, hgap⟩
    have hleft : Text.trimLeft (indent ++ ([] ++ (gap ++ rest))) = rest := by
      rw [List.nil_append, ← List.append_assoc]
      exact dropWhile_append_of_head hblanks hblank
    have hmarks : rest.dropWhile (· == '#') = rest :=
      dropWhile_of_head fun c hc => (hrest c hc).2
    rw [hleft, hmarks]
    exact dropWhile_of_head hblank
  | cons mark heading =>
    obtain rfl : mark = '#' := hheading mark List.mem_cons_self
    have hleft : Text.trimLeft (indent ++ ('#' :: heading ++ (gap ++ rest))) =
        '#' :: heading ++ (gap ++ rest) := by
      refine dropWhile_append_of_head hindent ?_
      rintro c ⟨⟩
      decide
    have hmarks : ('#' :: heading ++ (gap ++ rest)).dropWhile (· == '#') = gap ++ rest := by
      refine dropWhile_append_of_head (fun c hc => beq_iff_eq.mpr (hheading c hc)) ?_
      intro c hc
      cases gap with
      | nil => exact (hrest c hc).2
      | cons d gap =>
        cases hc
        rw [beq_eq_false_iff_ne]
        rintro rfl
        exact absurd (hgap '#' List.mem_cons_self) (by decide)
    rw [hleft, hmarks]
    exact dropWhile_append_of_head hgap hblank

/-- A text that does not begin with decoration does not begin with a mark. -/
theorem not_prefix_of_isDecoration {c : Char} {pre body : List Char} (hc : IsDecoration c)
    (hbody : ∀ d ∈ body.head?, ¬ IsDecoration d) : ¬ c :: pre <+: body := by
  rintro ⟨rest, rfl⟩
  exact hbody c rfl hc

/-- **Nothing is missed.** Taking off the parts of a front one after the other leaves what stands
behind them. -/
theorem undecorated_append (front : Front) {body : List Char}
    (hbody : ∀ c ∈ body.head?, ¬ IsDecoration c) : undecorated (front.text ++ body) = body := by
  have hstar : IsDecoration '*' := .inr (by decide)
  have hblank : ∀ c ∈ (front.opening ++ body).head?, Text.isBlank c = false := fun c hc =>
    (head?_marked (.inl rfl) front.opening_mayBe hbody c hc).1
  have hopen : front.opening = [] → ¬ bold <+: body := fun _ =>
    not_prefix_of_isDecoration hstar hbody
  have hnone : ∀ bullet ∈ bullets, ¬ bullet <+: front.opening ++ body := by
    intro bullet hbullet
    rcases front.opening_mayBe with hopening | hopening
    · rw [hopening, List.nil_append]
      have hmarks : bullets = ['-', '*', '+'].map ([·, ' ']) := rfl
      obtain ⟨c, hc, rfl⟩ := List.mem_map.mp (hmarks ▸ hbullet)
      exact not_prefix_of_isDecoration (.inr (List.mem_cons_of_mem _ hc)) hbody
    · rw [hopening]
      have hapart : ∀ bullet ∈ bullets, Text.Apart bullet bold := by decide
      rintro ⟨rest, hrest⟩
      exact (hapart bullet hbullet).append_ne _ _ hrest
  rw [Front.text, undecorated]
  simp only [List.append_assoc]
  rw [unheaded_append front.indent_blank front.heading_eq front.gap_blank
      (head?_marked front.bullet_mayBe front.opening_mayBe hbody),
    withoutBullet_append front.bullet_mayBe hblank hnone,
    dropPrefix_bold_append front.opening_mayBe hopen]

/-! ## The label -/

theorem not_isDecoration_of_mem_head? (label : Label) (rest : List Char) :
    ∀ c ∈ (label.text.toList ++ rest).head?, ¬ IsDecoration c := by
  cases label
  all_goals
    rintro c ⟨⟩
    unfold IsDecoration
    decide

/-- No label begins with another one, so no text begins with two of them. -/
theorem eq_of_label_prefix {label label' : Label} {text : List Char}
    (h : label.text.toList <+: text) (h' : label'.text.toList <+: text) : label = label' := by
  have hapart : ∀ label ∈ Label.all, ∀ label' ∈ Label.all,
      label.text.toList <+: label'.text.toList → label = label' := by decide
  rcases List.prefix_or_prefix_of_prefix h h' with hprefix | hprefix
  · exact hapart label label.mem_all label' label'.mem_all hprefix
  · exact (hapart label' label'.mem_all label label.mem_all hprefix).symm

theorem label_prefix_of_valueOf? {label : Label} {body value : List Char}
    (h : valueOf? label body = some value) : label.text.toList <+: body := by
  obtain ⟨rest, hrest, -⟩ := Option.bind_eq_some_iff.mp h
  exact ⟨rest, List.isPrefixOf?_eq_some_iff_append_eq.mp hrest⟩

/-- Which label is looked for first plays no part. -/
theorem classifyLine_eq_some_iff {line value : List Char} {label : Label} :
    classifyLine line = some (label, value) ↔ valueOf? label (undecorated line) = some value := by
  constructor
  · intro h
    obtain ⟨found, -, hfound⟩ := List.exists_of_findSome?_eq_some h
    obtain ⟨_, hvalue, heq⟩ := Option.map_eq_some_iff.mp hfound
    cases heq
    exact hvalue
  · intro h
    have hsome : (classifyLine line).isSome = true := by
      rw [classifyLine, List.findSome?_isSome_iff]
      exact ⟨label, label.mem_all, by rw [h]; rfl⟩
    obtain ⟨entry, hentry⟩ := Option.isSome_iff_exists.mp hsome
    -- whatever label is found, the text begins with it
    obtain ⟨found, -, hfound⟩ := List.exists_of_findSome?_eq_some hentry
    obtain ⟨value', hvalue', rfl⟩ := Option.map_eq_some_iff.mp hfound
    obtain rfl : label = found :=
      eq_of_label_prefix (label_prefix_of_valueOf? h) (label_prefix_of_valueOf? hvalue')
    obtain rfl : value = value' := Option.some.inj (h.symm.trans hvalue')
    exact hentry

/-- Behind a label, marks and colon are taken off. -/
theorem valueOf?_append (label : Label) {inner outer rest : List Char} (hinner : MayBeBold inner)
    (houter : MayBeBold outer) (hrest : outer = [] → ¬ bold <+: rest) :
    valueOf? label (label.text.toList ++ (inner ++ ':' :: (outer ++ rest))) =
      some (Text.trim rest) := by
  have hcolon : inner = [] → ¬ bold <+: ':' :: (outer ++ rest) := by
    rintro - ⟨behind, hbehind⟩
    cases hbehind
  rw [valueOf?, List.isPrefixOf?_eq_some_iff_append_eq.mpr rfl, Option.bind_eq_bind,
    Option.bind_some, dropPrefix_bold_append hinner hcolon]
  exact congrArg (some <| Text.trim ·) (dropPrefix_bold_append houter hrest)

/-! ## Labelled lines -/

/-- **Labelled lines.** A line is read as one with a label and a value exactly when it is put
together from the parts of such a line, and there is one label and one value at most for which it
can be. -/
theorem classifyLine_iff_labelledAs (line : List Char) :
    (∀ label value, classifyLine line = some (label, value) ↔ LabelledAs line label value) ∧
    ∀ label value label' value', LabelledAs line label value → LabelledAs line label' value' →
      label = label' ∧ value = value' := by
  have hiff : ∀ label value,
      classifyLine line = some (label, value) ↔ LabelledAs line label value := by
    intro label value
    constructor
    · intro h
      obtain ⟨front, hfront⟩ := exists_front line
      obtain ⟨inner, behind, hinner, hbody, hvalue⟩ := exists_rest_of_classifyLine h
      obtain ⟨outer, houter, hbehind, hrest⟩ := exists_marks behind
      rw [hbehind] at hbody
      exact ⟨front, inner, outer, _, hinner.symm, houter, by rw [← hbody, ← hfront], hrest, hvalue⟩
    · rintro ⟨front, inner, outer, rest, hinner, houter, rfl, hrest, rfl⟩
      rw [classifyLine_eq_some_iff,
        undecorated_append front (not_isDecoration_of_mem_head? label _),
        valueOf?_append label hinner houter hrest]
  refine ⟨hiff, ?_⟩
  intro label value label' value' h h'
  have heq := ((hiff label value).mpr h).symm.trans ((hiff label' value').mpr h')
  exact Prod.mk.inj (Option.some.inj heq)

/-- A line with all parts: stars are a bullet, bold marks and the beginning of the value. -/
theorem classifyLine_iff_labelledAs_starred :
    LabelledAs "\t## * **Output Field**:** *int*".toList .outputField "*int*".toList ∧
      ∀ label value, LabelledAs "\t## * **Output Field**:** *int*".toList label value →
        label = .outputField ∧ value = "*int*".toList := by
  obtain ⟨hiff, hunique⟩ :=
    classifyLine_iff_labelledAs "\t## * **Output Field**:** *int*".toList
  have hread := (hiff .outputField "*int*".toList).mp (by decide)
  exact ⟨hread, fun label value h => hunique _ _ _ _ h hread⟩

end StarterCode.Document
