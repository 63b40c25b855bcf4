import Entitlement.Proofs.Ledger.Limit
import Entitlement.Proofs.Numbering

/-!
Ledgers thinned out to one key. What happens under other keys leaves the slots of a key alone, and so do the guards
of other keys; what happens under the key itself happens in the thinned ledger in the same way, up to the numbers of
the guards.
-/

namespace Entitlement

def SlotOutcome.renumber (guard : GuardId → GuardId) : SlotOutcome → SlotOutcome
  | acquired g k => acquired (guard g) k
  | denied max inUse reason => denied max inUse reason

namespace Ledger

variable {k : SlotKey} {kept : GuardId → Prop} [DecidablePred kept] {l l' : Ledger}

/-- `l'` counts under `k` what `l` counts, and has those of its guards that are kept. -/
structure Thinned (k : SlotKey) (kept : GuardId → Prop) [DecidablePred kept] (l l' : Ledger) : Prop where
  counts : l'.counts.find? k = l.counts.find? k
  generation : l'.generation = l.generation
  guards : Table.Thinned kept Eq l.guards l'.guards
  nextGuard : l'.nextGuard = Nat.count kept l.nextGuard

namespace Thinned

theorem inUse (thinned : Thinned k kept l l') : l'.inUse k = l.inUse k :=
  congrArg (Option.getD · 0) thinned.counts

/-! ### Taking -/

/-- A slot under `k` is given or denied in both. -/
theorem acquireSlot (thinned : Thinned k kept l l') (s : Snapshot)
    (keeps : (s.acquireSlot l k).1.isAcquired = true → kept l.nextGuard) :
    Thinned k kept (s.acquireSlot l k).2 (s.acquireSlot l' k).2 ∧
      (s.acquireSlot l' k).1 = (s.acquireSlot l k).1.renumber (Nat.count kept) := by
  unfold Snapshot.acquireSlot at keeps ⊢
  cases limit : s.concurrencyLimit with
  | none => exact ⟨thinned, by rw [thinned.inUse]; rfl⟩
  | some max =>
    simp only [limit, tryAcquire] at keeps
    simp only [tryAcquire, thinned.inUse]
    by_cases free : l.inUse k < max
    · simp only [free, ↓reduceIte] at keeps ⊢
      have keeps := keeps rfl
      refine ⟨⟨?_, thinned.generation, ?_, ?_⟩, congrArg (SlotOutcome.acquired · k) thinned.nextGuard⟩
      · rw [Table.find?_insert_self, Table.find?_insert_self]
      · rw [thinned.nextGuard, thinned.generation]
        exact thinned.guards.insert keeps rfl
      · rw [thinned.nextGuard, Nat.count_succ, if_pos keeps]
    · simp only [free, ↓reduceIte]
      exact ⟨thinned, rfl⟩

theorem acquireSlot_other (thinned : Thinned k kept l l') (s : Snapshot) {k' : SlotKey} (apart : k' ≠ k)
    (other : (s.acquireSlot l k').1.isAcquired = true → ¬ kept l.nextGuard) :
    Thinned k kept (s.acquireSlot l k').2 l' := by
  rcases s.acquireSlot_cases l k' with ⟨max, g, after, _, taken, same⟩ | ⟨_, _, same⟩
  · obtain ⟨_, _, rfl⟩ := tryAcquire_ok taken
    rw [same] at other ⊢
    have gone : ¬ kept l.nextGuard := other rfl
    refine ⟨?_, thinned.generation, thinned.guards.insert_other gone _, ?_⟩
    · rw [Table.find?_insert_of_ne _ apart.symm]
      exact thinned.counts
    · rw [thinned.nextGuard, Nat.count_succ, if_neg gone, Nat.add_zero]
  · rw [same]
    exact thinned

/-! ### Giving back -/

theorem release (thinned : Thinned k kept l l') {g : GuardId} (keeps : kept g) :
    Thinned k kept (l.release g) (l'.release (Nat.count kept g)) := by
  have same := thinned.guards.find?_eq keeps
  cases found : l.guards.find? g with
  | none => simpa only [Ledger.release, same, found] using thinned
  | some guard =>
    cases released : guard.released with
    | true => simpa only [Ledger.release, same, found, released, ↓reduceIte] using thinned
    | false =>
      simp only [Ledger.release, same, found, released, thinned.generation, Bool.false_eq_true, ↓reduceIte]
      refine ⟨?_, rfl, thinned.guards.insert keeps rfl, thinned.nextGuard⟩
      by_cases current : guard.generation = l.generation
      · simp only [current, ↓reduceIte, find?_lower]
        by_cases own : k = guard.key
        · rw [if_pos own, if_pos own, ← own, thinned.counts]
        · rw [if_neg own, if_neg own, thinned.counts]
      · simpa only [current, ↓reduceIte] using thinned.counts

theorem release_other (thinned : Thinned k kept l l') {g : GuardId} (other : ¬ kept g)
    (apart : ∀ guard, l.guards.find? g = some guard → guard.key ≠ k) : Thinned k kept (l.release g) l' := by
  unfold Ledger.release
  split
  · next guard found =>
    split
    · exact thinned
    · refine ⟨?_, thinned.generation, thinned.guards.insert_other other _, thinned.nextGuard⟩
      simp only
      split
      · rw [find?_lower, if_neg (apart guard found).symm]
        exact thinned.counts
      · exact thinned.counts
  · exact thinned

theorem drop (thinned : Thinned k kept l l') {g : GuardId} (keeps : kept g) :
    Thinned k kept (l.drop g) (l'.drop (Nat.count kept g)) := by
  have released := thinned.release keeps
  exact ⟨released.counts, released.generation, released.guards.erase keeps, released.nextGuard⟩

theorem drop_other (thinned : Thinned k kept l l') {g : GuardId} (other : ¬ kept g)
    (apart : ∀ guard, l.guards.find? g = some guard → guard.key ≠ k) : Thinned k kept (l.drop g) l' := by
  have released := thinned.release_other other apart
  exact ⟨released.counts, released.generation, released.guards.erase_other other, released.nextGuard⟩

theorem clear (thinned : Thinned k kept l l') : Thinned k kept l.clear l'.clear :=
  ⟨rfl, congrArg (· + 1) thinned.generation, thinned.guards, thinned.nextGuard⟩

end Thinned

/-! ### The numbers of the guards -/

theorem acquireSlot_guard {s : Snapshot} (granted : (s.acquireSlot l k).1.isAcquired = true) :
    (s.acquireSlot l k).2.guards.find? l.nextGuard = some { key := k, generation := l.generation } := by
  rcases s.acquireSlot_cases l k with ⟨_, _, _, _, taken, same⟩ | ⟨_, _, same⟩
  · obtain ⟨_, _, rfl⟩ := tryAcquire_ok taken
    rw [same]
    exact Table.find?_insert_self ..
  · rw [same] at granted
    cases granted

theorem nextGuard_stepSlots (l : Ledger) (e : SlotEvent) : l.nextGuard ≤ (l.stepSlots e).nextGuard := by
  cases e with
  | acquire s k =>
    rcases s.acquireSlot_cases l k with ⟨_, _, _, _, taken, same⟩ | ⟨_, _, same⟩
    · obtain ⟨_, _, rfl⟩ := tryAcquire_ok taken
      rw [stepSlots, same]
      exact Nat.le_succ _
    · rw [stepSlots, same]
  | release g | drop g => exact Nat.le_of_eq (l.release_frame g).2.symm
  | clear => exact Nat.le_refl _

/-- A guard is of the key that it was given out for. -/
theorem key_stepSlots (l : Ledger) (e : SlotEvent) {g : GuardId} {guard : Guard}
    (found : (l.stepSlots e).guards.find? g = some guard) :
    (∃ before, l.guards.find? g = some before ∧ before.key = guard.key) ∨
      (g = l.nextGuard ∧ l.nextGuard < (l.stepSlots e).nextGuard) := by
  have released {g' : GuardId} (found : (l.release g').guards.find? g = some guard) :
      ∃ before, l.guards.find? g = some before ∧ before.key = guard.key := by
    obtain ⟨before, present, same, _⟩ := l.find?_release g' g found
    exact ⟨before, present, same⟩
  cases e with
  | acquire s k =>
    rcases s.acquireSlot_cases l k with ⟨_, _, _, _, taken, same⟩ | ⟨_, _, same⟩
    · obtain ⟨_, _, rfl⟩ := tryAcquire_ok taken
      rw [stepSlots, same] at found ⊢
      simp only [Table.find?_insert] at found
      split at found
      · next new => exact Or.inr ⟨new, Nat.lt_succ_self _⟩
      · exact Or.inl ⟨guard, found, rfl⟩
    · rw [stepSlots, same] at found
      exact Or.inl ⟨guard, found, rfl⟩
  | release g' => exact Or.inl (released found)
  | drop g' =>
    simp only [stepSlots, drop, Table.find?_erase] at found
    split at found
    · cases found
    · exact Or.inl (released found)
  | clear => exact Or.inl ⟨guard, found, rfl⟩

end Ledger

end Entitlement
