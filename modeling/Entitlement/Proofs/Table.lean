import Entitlement.Table
import Mathlib.Data.Set.Card

/-!
Sizes of tables: a table is as large as the set of its keys, and what a filter takes away is the keys whose
entries fail it.
-/

namespace Entitlement.Table

variable {κ α : Type} [DecidableEq κ]

theorem size_eq_ncard (t : Table κ α) : t.size = {k | (t.find? k).isSome = true}.ncard := by
  have keys : {k | (t.find? k).isSome = true} = ((t.entries.map Prod.fst).toFinset : Set κ) := by
    ext k
    rw [List.coe_toFinset, Set.mem_ofPred_eq, Set.mem_ofPred_eq, mem_keys]
  rw [keys, Set.ncard_coe_finset, List.toFinset_card_of_nodup t.nodup, List.length_map]
  rfl

theorem size_sub_filter (t : Table κ α) (p : κ → α → Bool) :
    t.size - (t.filter p).size = {k | ∃ a, t.find? k = some a ∧ p k a = false}.ncard := by
  have split : t.size = (t.filter p).size + (t.filter fun k a => !p k a).size :=
    List.length_eq_length_filter_add fun e : κ × α => p e.1 e.2
  rw [split, Nat.add_sub_cancel_left, size_eq_ncard]
  congr 1
  ext k
  simp only [Set.mem_ofPred_eq, find?_filter, Option.isSome_iff_exists, Option.filter_eq_some_iff,
    Bool.not_eq_eq_eq_not, Bool.not_true]

end Entitlement.Table
