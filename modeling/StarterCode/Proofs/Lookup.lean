import Mathlib.Data.List.Nodup
import Mathlib.Data.List.Perm.Basic

/-!
# Looking up in a list of pairs

Where no key comes twice, looking a key up finds the one value that stands with it. Which pair
stands before which is then of no account. -/

set_option autoImplicit false

namespace StarterCode

universe u v

variable {α : Type u} {β : Type v} [BEq α] [LawfulBEq α] {pairs others : List (α × β)}

/-- Without two pairs for one key, a pair is found if it is there. -/
theorem lookup_eq_some_iff_mem (h : (pairs.map (·.1)).Nodup) {key : α} {value : β} :
    pairs.lookup key = some value ↔ (key, value) ∈ pairs := by
  have hmem : ∀ value, pairs.lookup key = some value → (key, value) ∈ pairs := by
    intro value hlookup
    obtain ⟨before, after, rfl, -⟩ := List.lookup_eq_some_iff.mp hlookup
    exact List.mem_append_right _ List.mem_cons_self
  refine ⟨hmem value, fun hin => ?_⟩
  cases hlookup : pairs.lookup key with
  | none => simpa using List.lookup_eq_none_iff.mp hlookup (key, value) hin
  | some other =>
    -- what is found has the same key, and there is one pair for a key
    have heq := List.inj_on_of_nodup_map h (hmem other hlookup) hin rfl
    rw [Prod.mk.injEq] at heq
    rw [heq.2]

/-- What is found does not depend on the order of the pairs. -/
theorem lookup_eq_of_perm (hperm : others.Perm pairs) (h : (pairs.map (·.1)).Nodup) (key : α) :
    others.lookup key = pairs.lookup key := by
  have hothers : (others.map (·.1)).Nodup := (hperm.map _).nodup_iff.mpr h
  apply Option.ext
  intro value
  rw [lookup_eq_some_iff_mem hothers, lookup_eq_some_iff_mem h, hperm.mem_iff]

end StarterCode
