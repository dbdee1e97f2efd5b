/-!
# Results that may be errors

How a chain of steps in `Except` comes out: it succeeds when every step does, and it fails with the
error of the first step that fails. Each lemma turns a question about the chain into one about its
first step and what follows, so no other module looks into the definition of the chain.
-/

set_option autoImplicit false

namespace StarterCode

universe u v w

variable {ε : Type u} {α β : Type v}

/-- A chain succeeds when both of its parts do. -/
theorem bind_eq_ok {first : Except ε α} {next : α → Except ε β} {answer : β} :
    (first >>= next) = .ok answer ↔ ∃ a, first = .ok a ∧ next a = .ok answer := by
  cases first with
  | error e => simp [bind, Except.bind]
  | ok a => simp [bind, Except.bind]

/-- A chain fails when its first part does, or when its first part succeeds and its second fails. -/
theorem bind_eq_error {first : Except ε α} {next : α → Except ε β} {e : ε} :
    (first >>= next) = .error e ↔
      first = .error e ∨ ∃ a, first = .ok a ∧ next a = .error e := by
  cases first with
  | error e => simp [bind, Except.bind]
  | ok a => simp [bind, Except.bind]

/-- What follows a first part matters for the answer of that part alone. -/
theorem bind_congr_of_ok {first : Except ε α} {next next' : α → Except ε β}
    (h : ∀ a, first = .ok a → next a = next' a) : (first >>= next) = (first >>= next') := by
  cases first with
  | error e => rfl
  | ok a => exact h a rfl

/-- Changing the error of a result leaves its answer as it is. -/
theorem mapError_eq_ok {ε' : Type u} {change : ε → ε'} {result : Except ε α} {a : α} :
    result.mapError change = .ok a ↔ result = .ok a := by
  cases result with
  | error e => exact ⟨fun h => (by cases h), fun h => (by cases h)⟩
  | ok a' => exact ⟨fun h => (by cases h; rfl), fun h => (by cases h; rfl)⟩

/-- An error of a changed result is a changed error. -/
theorem mapError_eq_error {ε' : Type u} {change : ε → ε'} {result : Except ε α} {e' : ε'} :
    result.mapError change = .error e' ↔ ∃ e, result = .error e ∧ change e = e' := by
  cases result with
  | error e =>
    refine ⟨fun h => ⟨e, rfl, by cases h; rfl⟩, ?_⟩
    rintro ⟨_, h, rfl⟩
    cases h
    rfl
  | ok a =>
    refine ⟨fun h => (by cases h), ?_⟩
    rintro ⟨_, h, -⟩
    cases h

/-- The errors of a chain are changed when those of both of its parts are. -/
theorem bind_mapError {ε' : Type u} {change : ε → ε'} {first : Except ε α} {first' : Except ε' α}
    {next : α → Except ε β} {next' : α → Except ε' β} (hfirst : first' = first.mapError change)
    (hnext : ∀ a, next' a = (next a).mapError change) :
    (first' >>= next') = (first >>= next).mapError change := by
  subst hfirst
  cases first with
  | error e => rfl
  | ok a => exact hnext a

/-- A result with an answer in it is that answer. Answers can be compared where errors cannot. -/
theorem eq_ok_of_toOption {result : Except ε α} {a : α} (h : result.toOption = some a) :
    result = .ok a := by
  cases result with
  | error e => cases h
  | ok a' => exact congrArg Except.ok (Option.some.inj h)

/-- A result without an answer is an error. -/
theorem exists_eq_error_of_toOption {result : Except ε α} (h : result.toOption.isNone = true) :
    ∃ e, result = .error e := by
  cases result with
  | error e => exact ⟨e, rfl⟩
  | ok a => cases h

/-- A chain over a list succeeds when it does so on each of its members. -/
theorem mapM_eq_ok_of_forall {f : α → Except ε β} : ∀ {list : List α},
    (∀ a ∈ list, ∃ b, f a = .ok b) → ∃ answers, list.mapM f = .ok answers
  | [], _ => ⟨[], rfl⟩
  | a :: list, h => by
    obtain ⟨b, hb⟩ := h a List.mem_cons_self
    obtain ⟨answers, hanswers⟩ := mapM_eq_ok_of_forall fun a ha => h a (List.mem_cons_of_mem _ ha)
    refine ⟨b :: answers, ?_⟩
    rw [List.mapM_cons, hb, hanswers]
    rfl

/-- A chain over a list succeeds with the answers that its members give. -/
theorem mapM_eq_ok_map {f : α → Except ε β} {answer : α → β} : ∀ {list : List α},
    (∀ a ∈ list, f a = .ok (answer a)) → list.mapM f = .ok (list.map answer)
  | [], _ => rfl
  | a :: list, h => by
    rw [List.mapM_cons, h a List.mem_cons_self,
      mapM_eq_ok_map fun a ha => h a (List.mem_cons_of_mem _ ha)]
    rfl

/-- Each answer of a chain over a list is that of a member. -/
theorem exists_of_mem_of_mapM_eq_ok {f : α → Except ε β} : ∀ {list : List α} {answers : List β},
    list.mapM f = .ok answers → ∀ b ∈ answers, ∃ a ∈ list, f a = .ok b
  | [], _, h, b, hb => by
    cases h
    cases hb
  | a :: list, _, h, b, hb => by
    rw [List.mapM_cons] at h
    obtain ⟨first, hfirst, h⟩ := bind_eq_ok.mp h
    obtain ⟨others, hothers, h⟩ := bind_eq_ok.mp h
    cases h
    rcases List.mem_cons.mp hb with rfl | hb
    · exact ⟨a, List.mem_cons_self, hfirst⟩
    · obtain ⟨a', ha', h⟩ := exists_of_mem_of_mapM_eq_ok hothers b hb
      exact ⟨a', List.mem_cons_of_mem _ ha', h⟩

/-- A chain over a list that fails does so with the error of one of its members. -/
theorem exists_of_mapM_eq_error {f : α → Except ε β} {e : ε} : ∀ {list : List α},
    list.mapM f = .error e → ∃ a ∈ list, f a = .error e
  | [], h => by cases h
  | a :: list, h => by
    rw [List.mapM_cons, bind_eq_error] at h
    rcases h with h | ⟨b, -, h⟩
    · exact ⟨a, List.mem_cons_self, h⟩
    · rcases bind_eq_error.mp h with h | ⟨_, -, h⟩
      · obtain ⟨a', ha', h⟩ := exists_of_mapM_eq_error h
        exact ⟨a', List.mem_cons_of_mem _ ha', h⟩
      · cases h

end StarterCode
