import Entitlement.Proofs.History
import Entitlement.Table
import Mathlib.Data.Nat.Count

/-!
Numbers that are given out in the order of coming. What a number stands for is what the first state says that
knows it (`Numbers.first?_eq`). Where only some of the numbers are kept, each of these becomes the count of the
kept ones before it, and a table of what is numbered is thinned out accordingly (`Table.Thinned`).
-/

namespace Entitlement

namespace History

variable {σ ε α : Type} {step : σ → ε → σ} {h : History step}

/-- What the first state says that says anything. -/
def first? (h : History step) (told : σ → Option α) : Option α :=
  (List.range (h.events.length + 1)).findSome? fun n => told (h.state n)

theorem findSome?_range {told : Nat → Option α} {n m : Nat} {a : α} (inside : n < m) (found : told n = some a)
    (silent : ∀ l < n, told l = none) : (List.range m).findSome? told = some a := by
  obtain ⟨r, rfl⟩ := Nat.exists_eq_add_of_lt inside
  have before : (List.range n).findSome? told = none :=
    List.findSome?_eq_none_iff.mpr fun l member => silent l (List.mem_range.mp member)
  rw [Nat.add_assoc, List.range_add, List.findSome?_append, before, Option.none_or, List.range_succ_eq_map,
    List.map_cons, List.findSome?_cons, Nat.add_zero, found]

/-- Each number stands for something else, or for nothing yet. The numbers are given out one after the other, and
what one stands for does not change. -/
structure Numbers (step : σ → ε → σ) (next : σ → Nat) (label : σ → Nat → Option α) : Prop where
  onward : ∀ s e, next s ≤ next (step s e)
  lasting : ∀ s e i a, label (step s e) i = some a →
    label s i = some a ∨ (i = next s ∧ next s < next (step s e))

namespace Numbers

variable {next : σ → Nat} {label : σ → Nat → Option α}

theorem next_le (numbers : Numbers step next label) {m n : Nat} (later : m ≤ n) :
    next (h.state m) ≤ next (h.state n) :=
  induction (P := fun _ s => next (h.state m) ≤ next s) later (Nat.le_refl _)
    (fun k e _ _ before => Nat.le_trans before (numbers.onward (h.state k) e)) (fun _ _ _ => id)

theorem lt_next (numbers : Numbers step next label) (blank : ∀ i, label h.start i = none) {n i : Nat} {a : α}
    (known : label (h.state n) i = some a) : i < next (h.state n) := by
  refine h.invariant (P := fun s => ∀ i a, label s i = some a → i < next s) ?_ ?_ n i a known
  · intro i a known
    cases (blank i).symm.trans known
  · intro k e _ below i a known
    rcases numbers.lasting (h.state k) e i a known with before | ⟨rfl, more⟩
    · exact Nat.lt_of_lt_of_le (below i a before) (numbers.onward (h.state k) e)
    · exact more

theorem first?_eq (numbers : Numbers step next label) (blank : ∀ i, label h.start i = none) {n i : Nat} {a : α}
    (known : label (h.state n) i = some a) : h.first? (label · i) = some a := by
  induction n with
  | zero => cases (blank i).symm.trans known
  | succ n ih =>
    rcases h.next n with ⟨e, happened, moved⟩ | ⟨_, same⟩
    · rcases numbers.lasting (h.state n) e i a (moved ▸ known) with before | ⟨rfl, _⟩
      · exact ih before
      -- The number has just been given out, so no state up to here knows it.
      · have inside : n < h.events.length := (List.getElem?_eq_some_iff.mp happened).1
        refine findSome?_range (Nat.succ_lt_succ inside) known fun l sooner => ?_
        refine Option.eq_none_iff_forall_ne_some.mpr fun a' known' => ?_
        have below := numbers.lt_next blank known'
        exact Nat.lt_irrefl _ (Nat.lt_of_lt_of_le below (numbers.next_le (Nat.le_of_lt_succ sooner)))
    · exact ih (same ▸ known)

end Numbers

end History

namespace Table

variable {α : Type} {kept : Nat → Prop} [DecidablePred kept] {R : α → α → Prop} {t t' : Table Nat α}

/-- `t'` has the entries of `t` whose numbers are kept, up to `R`, and each under the count of the kept numbers
before its own. -/
def Thinned (kept : Nat → Prop) [DecidablePred kept] (R : α → α → Prop) (t t' : Table Nat α) : Prop :=
  ∀ i, kept i → Option.Rel R (t.find? i) (t'.find? (Nat.count kept i))

namespace Thinned

theorem eq_iff :
    Thinned kept Eq t t' ↔ ∀ i, kept i → t'.find? (Nat.count kept i) = t.find? i := by
  refine forall₂_congr fun i _ => ?_
  generalize t.find? i = before, t'.find? (Nat.count kept i) = after
  constructor
  · rintro (equal | _)
    · exact congrArg some equal.symm
    · rfl
  · rintro rfl
    cases after with
    | none => exact .none
    | some => exact .some rfl

theorem find?_eq (thinned : Thinned kept Eq t t') {i : Nat} (keeps : kept i) :
    t'.find? (Nat.count kept i) = t.find? i :=
  eq_iff.mp thinned i keeps

theorem some_of_some (thinned : Thinned kept R t t') {i : Nat} (keeps : kept i) {a : α} (found : t.find? i = some a) :
    ∃ a', t'.find? (Nat.count kept i) = some a' ∧ R a a' := by
  have same := thinned i keeps
  rw [found] at same
  generalize t'.find? (Nat.count kept i) = after at same ⊢
  cases same with
  | some related => exact ⟨_, rfl, related⟩

theorem none_of_none (thinned : Thinned kept R t t') {i : Nat} (keeps : kept i) (absent : t.find? i = none) :
    t'.find? (Nat.count kept i) = none := by
  have same := thinned i keeps
  rw [absent] at same
  generalize t'.find? (Nat.count kept i) = after at same ⊢
  cases same
  rfl

theorem insert (thinned : Thinned kept R t t') {n : Nat} (keeps : kept n) {a a' : α} (related : R a a') :
    Thinned kept R (t.insert n a) (t'.insert (Nat.count kept n) a') := by
  intro i keeps'
  rw [find?_insert, find?_insert]
  by_cases same : i = n
  · rw [if_pos same, if_pos (congrArg _ same)]
    exact .some related
  · rw [if_neg same, if_neg fun equal => same (Nat.count_injective keeps' keeps equal)]
    exact thinned i keeps'

theorem insert_other (thinned : Thinned kept R t t') {n : Nat} (other : ¬ kept n) (a : α) :
    Thinned kept R (t.insert n a) t' := by
  intro i keeps
  have apart : i ≠ n := fun same => other (same ▸ keeps)
  rw [find?_insert_of_ne a apart]
  exact thinned i keeps

theorem erase (thinned : Thinned kept R t t') {n : Nat} (keeps : kept n) :
    Thinned kept R (t.erase n) (t'.erase (Nat.count kept n)) := by
  intro i keeps'
  rw [find?_erase, find?_erase]
  by_cases same : i = n
  · rw [if_pos same, if_pos (congrArg _ same)]
    exact .none
  · rw [if_neg same, if_neg fun equal => same (Nat.count_injective keeps' keeps equal)]
    exact thinned i keeps'

theorem erase_other (thinned : Thinned kept R t t') {n : Nat} (other : ¬ kept n) :
    Thinned kept R (t.erase n) t' := by
  intro i keeps
  have apart : i ≠ n := fun same => other (same ▸ keeps)
  rw [find?_erase_of_ne apart]
  exact thinned i keeps

theorem modify (thinned : Thinned kept R t t') {n : Nat} (keeps : kept n) {f f' : α → α}
    (related : ∀ a a', t.find? n = some a → R a a' → R (f a) (f' a')) :
    Thinned kept R (t.modify n f) (t'.modify (Nat.count kept n) f') := by
  intro i keeps'
  rw [find?_modify, find?_modify]
  by_cases same : i = n
  · rw [if_pos same, if_pos (congrArg _ same)]
    subst same
    have here := thinned i keeps
    generalize found : t.find? i = before, t'.find? (Nat.count kept i) = after at here ⊢
    cases here with
    | none => exact .none
    | some there => exact .some (related _ _ found there)
  · rw [if_neg same, if_neg fun equal => same (Nat.count_injective keeps' keeps equal)]
    exact thinned i keeps'

theorem modify_other (thinned : Thinned kept R t t') {n : Nat} (other : ¬ kept n) (f : α → α) :
    Thinned kept R (t.modify n f) t' := by
  intro i keeps
  have apart : i ≠ n := fun same => other (same ▸ keeps)
  rw [find?_modify, if_neg apart]
  exact thinned i keeps

end Thinned

end Table

end Entitlement
