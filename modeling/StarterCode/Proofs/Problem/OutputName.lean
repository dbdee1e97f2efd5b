import Mathlib.Data.Finset.Card
import Mathlib.Data.Finset.Image
import Mathlib.Order.Bounds.Defs
import StarterCode.Problem.Reader

/-!
# A name for the returned value

A returned value that the document leaves unnamed is called `result`, with as many underscores
behind it as it takes to differ from all parameters. The search tries one name after the other and
stops at the first that is not taken, or when it has tried as many as there are names taken. It
never stops for the second reason with a name that is taken: the names it has tried by then are all
different and one more than those that are taken.

So the bound is of no account. The search that has none, and goes on for as long as the name is
taken (`Search`), ends with the same name (`search_defaultOutputName`).
-/

set_option autoImplicit false

namespace StarterCode.Problem

/-- The name with a number of underscores behind it. -/
def underscored (name : String) (n : Nat) : String :=
  name ++ String.ofList (List.replicate n '_')

theorem toList_underscored (name : String) (n : Nat) :
    (underscored name n).toList = name.toList ++ List.replicate n '_' := by
  rw [underscored, String.toList_append, String.toList_ofList]

theorem underscored_zero (name : String) : underscored name 0 = name := by
  apply String.toList_injective
  rw [toList_underscored, List.replicate_zero, List.append_nil]

theorem underscored_succ (name : String) (n : Nat) :
    underscored (name ++ "_") n = underscored name (n + 1) := by
  apply String.toList_injective
  rw [toList_underscored, toList_underscored, String.toList_append, List.append_assoc,
    List.replicate_succ]
  rfl

theorem underscored_injective (name : String) : Function.Injective (underscored name) := by
  intro m n h
  have hlength := congrArg (fun s : String => s.toList.length) h
  simp only [toList_underscored, List.length_append, List.length_replicate] at hlength
  omega

/-- Where the search stops, all names before are taken. It stops at a name that is not, or at the
last one. -/
theorem exists_freeName (taken : List String) (extra : Nat) (name : String) :
    ∃ n ≤ extra, freeName taken extra name = underscored name n ∧
      (∀ m < n, underscored name m ∈ taken) ∧ (n = extra ∨ underscored name n ∉ taken) := by
  induction extra generalizing name with
  | zero => exact ⟨0, Nat.le_refl 0, (underscored_zero name).symm, nofun, .inl rfl⟩
  | succ extra ih =>
    rw [freeName]
    by_cases htaken : taken.contains name = true
    · -- the search goes on from the next name, so its count is one behind
      rw [if_pos htaken]
      obtain ⟨n, hn, hname, hbefore, hstop⟩ := ih (name ++ "_")
      refine ⟨n + 1, Nat.succ_le_succ hn, by rw [hname, underscored_succ], ?_, ?_⟩
      · intro m hm
        cases m with
        | zero =>
          rw [underscored_zero]
          exact List.contains_iff_mem.mp htaken
        | succ m =>
          rw [← underscored_succ]
          exact hbefore m (Nat.lt_of_succ_lt_succ hm)
      · rw [← underscored_succ]
        exact hstop.imp_left fun heq => by rw [heq]
    · rw [if_neg htaken]
      refine ⟨0, Nat.zero_le _, (underscored_zero name).symm, nofun, .inr ?_⟩
      rw [underscored_zero]
      exact fun hmem => htaken (List.contains_iff_mem.mpr hmem)

/-- Names that are all taken are no more than there are names taken, as they all are different. -/
theorem le_card_of_forall_mem {taken : List String} {name : String} {n : Nat}
    (h : ∀ m < n, underscored name m ∈ taken) : n ≤ taken.toFinset.card := by
  have hsubset : (Finset.range n).image (underscored name) ⊆ taken.toFinset := by
    intro candidate hcandidate
    obtain ⟨m, hm, rfl⟩ := Finset.mem_image.mp hcandidate
    exact List.mem_toFinset.mpr (h m (Finset.mem_range.mp hm))
  have hcard := Finset.card_le_card hsubset
  rwa [Finset.card_image_of_injective _ (underscored_injective name), Finset.card_range] at hcard

/-- Among one name more than are taken there is one that is not taken. -/
theorem exists_underscored_not_mem (taken : List String) (name : String) :
    ∃ n ≤ taken.length, underscored name n ∉ taken := by
  by_contra hnone
  push Not at hnone
  have hcard : taken.length + 1 ≤ taken.toFinset.card :=
    le_card_of_forall_mem fun m hm => hnone m (Nat.le_of_lt_succ hm)
  have hlength := List.toFinset_card_le taken
  omega

/-- The default name is the first among `result`, `result_`, `result__` and so on that is not
taken. -/
theorem exists_defaultOutputName (taken : List String) :
    ∃ n ≤ taken.length, defaultOutputName taken = underscored "result" n ∧
      underscored "result" n ∉ taken ∧ ∀ m < n, underscored "result" m ∈ taken := by
  obtain ⟨n, hn, hname, hbefore, hstop⟩ := exists_freeName taken taken.length "result"
  refine ⟨n, hn, hname, ?_, hbefore⟩
  rcases hstop with hlast | hfree
  · -- all names before the last one are taken, so the free one is the last
    obtain ⟨m, hm, hfree⟩ := exists_underscored_not_mem taken "result"
    have hmn : m = n := by
      by_contra hne
      exact hfree (hbefore m (by omega))
    exact hmn ▸ hfree
  · exact hfree

theorem defaultOutputName_not_mem (taken : List String) : defaultOutputName taken ∉ taken := by
  obtain ⟨n, -, hname, hfree, -⟩ := exists_defaultOutputName taken
  rw [hname]
  exact hfree

theorem isIdentifier_defaultOutputName (taken : List String) :
    Text.isIdentifier (defaultOutputName taken).toList = true := by
  obtain ⟨n, -, hname, -, -⟩ := exists_defaultOutputName taken
  have hunderscores : (List.replicate n '_').all Text.isNameChar = true := by
    rw [List.all_eq_true]
    intro c hc
    rw [List.eq_of_mem_replicate hc]
    decide
  rw [hname, toList_underscored]
  have hresult : "result".toList = 'r' :: "esult".toList := by decide
  rw [hresult, List.cons_append, Text.isIdentifier, List.all_append, hunderscores]
  decide

/-! ## The search without a bound -/

/-- Adding underscores while the name is taken comes to an end with the name `found`, after a number
of rounds. -/
inductive Search (taken : List String) : (name : String) → (rounds : Nat) → (found : String) → Prop
  /-- A name that is not taken is found. -/
  | found {name : String} (hfree : name ∉ taken) : Search taken name 0 name
  /-- A name that is taken gets an underscore. -/
  | again {name : String} {rounds : Nat} {found : String} (htaken : name ∈ taken)
    (hrest : Search taken (name ++ "_") rounds found) : Search taken name (rounds + 1) found

/-- The search ends behind the names that are taken. -/
theorem search_underscored {taken : List String} {rounds : Nat} {name : String}
    (hbefore : ∀ m < rounds, underscored name m ∈ taken)
    (hfree : underscored name rounds ∉ taken) :
    Search taken name rounds (underscored name rounds) := by
  induction rounds generalizing name with
  | zero =>
    rw [underscored_zero] at hfree ⊢
    exact .found hfree
  | succ rounds ih =>
    have htaken : name ∈ taken := by
      have hfirst := hbefore 0 (Nat.succ_pos rounds)
      rwa [underscored_zero] at hfirst
    rw [← underscored_succ] at hfree ⊢
    refine .again htaken (ih ?_ hfree)
    intro m hm
    rw [underscored_succ]
    exact hbefore (m + 1) (Nat.succ_lt_succ hm)

/-- A bound that the search does not reach makes no difference. -/
theorem Search.freeName_eq {taken : List String} {name found : String} {rounds : Nat}
    (h : Search taken name rounds found) {bound : Nat} (hbound : rounds ≤ bound) :
    freeName taken bound name = found := by
  induction h generalizing bound with
  | found hfree =>
    cases bound with
    | zero => rfl
    | succ bound => rw [freeName, if_neg fun h => hfree (List.contains_iff_mem.mp h)]
  | again htaken _ ih =>
    cases bound with
    | zero => exact absurd hbound (Nat.not_succ_le_zero _)
    | succ bound =>
      rw [freeName, if_pos (List.contains_iff_mem.mpr htaken)]
      exact ih (Nat.le_of_succ_le_succ hbound)

/-- **The search ends by itself.** The default name is where the search arrives after at most as
many rounds as there are different names taken. It is `result` with the least number of underscores
that make a name that is not taken, and any bound on the search that allows for as many rounds gives
the same name. -/
theorem search_defaultOutputName (taken : List String) :
    ∃ n ≤ taken.toFinset.card, Search taken "result" n (defaultOutputName taken) ∧
      defaultOutputName taken = underscored "result" n ∧
      IsLeast {k | underscored "result" k ∉ taken} n ∧
      ∀ bound, taken.toFinset.card ≤ bound →
        freeName taken bound "result" = defaultOutputName taken := by
  obtain ⟨n, -, hname, hfree, hbefore⟩ := exists_defaultOutputName taken
  have hn : n ≤ taken.toFinset.card := le_card_of_forall_mem hbefore
  have hsearch : Search taken "result" n (underscored "result" n) :=
    search_underscored hbefore hfree
  rw [hname]
  refine ⟨n, hn, hsearch, rfl, ⟨hfree, ?_⟩, ?_⟩
  · intro k hk
    by_contra hlt
    exact hk (hbefore k (Nat.lt_of_not_le hlt))
  · intro bound hbound
    exact hsearch.freeName_eq (Nat.le_trans hn hbound)

end StarterCode.Problem
