import Entitlement.Admission
import Entitlement.Proofs.History
import Entitlement.Proofs.Ledger.Guards

/-!
Limits on slots that change from call to call. A snapshot grants a slot exactly if it sets a positive limit and
fewer slots than that are taken; a denial leaves the ledger as it is. A lower limit takes no slot back, so what
bounds the slots in use is not the limit of the day: they stay within a bound in every state if all the limits
that were ever applied are within it (`concurrency_limit`).
-/

namespace Entitlement

namespace Snapshot

variable (s : Snapshot) (l : Ledger) (k : SlotKey)

theorem concurrencyLimit_some {m : UInt64} :
    s.concurrencyLimit = some m ↔ s.maxConcurrency = some m ∧ 0 < m := by
  rw [concurrencyLimit, Option.filter_eq_some_iff, decide_eq_true_eq]

/-- A request is granted as the ledger grants it under the limit, or it is denied and the ledger left as it
is. -/
theorem acquireSlot_cases :
    (∃ m g l', s.concurrencyLimit = some m ∧ l.tryAcquire k m = .ok (g, l') ∧
      s.acquireSlot l k = (.acquired g k, l')) ∨
    (∃ reason, (∀ m, s.concurrencyLimit = some m → ¬ l.inUse k < m) ∧
      s.acquireSlot l k = (.denied (s.concurrencyLimit.getD 0) (l.inUse k) reason, l)) := by
  unfold acquireSlot
  cases limit : s.concurrencyLimit with
  | none => exact Or.inr ⟨_, nofun, rfl⟩
  | some m =>
    by_cases free : l.inUse k < m
    · exact Or.inl ⟨m, _, _, rfl, if_pos free, by simp only [Ledger.tryAcquire, free, ↓reduceIte]⟩
    · refine Or.inr ⟨.concurrencyExceeded, ?_, by simp only [Ledger.tryAcquire, free, ↓reduceIte]; rfl⟩
      rintro _ ⟨⟩
      exact free

theorem acquireSlot_isAcquired :
    (s.acquireSlot l k).1.isAcquired = true ↔ ∃ m, s.maxConcurrency = some m ∧ 0 < m ∧ l.inUse k < m := by
  rcases s.acquireSlot_cases l k with ⟨m, g, l', limit, taken, granted⟩ | ⟨reason, full, denied⟩
  · obtain ⟨set, positive⟩ := s.concurrencyLimit_some.mp limit
    rw [granted]
    exact iff_of_true rfl ⟨m, set, positive, (Ledger.tryAcquire_ok taken).1⟩
  · rw [denied]
    refine iff_of_false nofun ?_
    rintro ⟨m, set, positive, free⟩
    exact full m (s.concurrencyLimit_some.mpr ⟨set, positive⟩) free

/-- A slot that is granted is one more, and within the limit that granted it. -/
theorem acquireSlot_granted (granted : (s.acquireSlot l k).1.isAcquired = true) :
    (∀ k', ((s.acquireSlot l k).2.inUse k').toNat = (l.inUse k').toNat + if k' = k then 1 else 0) ∧
    ∀ m, s.maxConcurrency = some m → (s.acquireSlot l k).2.inUse k ≤ m := by
  rcases s.acquireSlot_cases l k with ⟨m, g, l', limit, taken, same⟩ | ⟨reason, _, same⟩
  · have count := Ledger.inUse_tryAcquire taken
    rw [same]
    refine ⟨count, ?_⟩
    intro m' set
    cases set.symm.trans (s.concurrencyLimit_some.mp limit).1
    have free := UInt64.lt_iff_toNat_lt.mp (Ledger.tryAcquire_ok taken).1
    refine UInt64.le_iff_toNat_le.mpr ?_
    rw [count k, if_pos rfl]
    exact free
  · rw [same] at granted
    cases granted

end Snapshot

/-! ### Runs -/

/-- What is done with a ledger under limits that the authority sets: the snapshot of a request is the one of
that moment. -/
inductive SlotEvent
  | acquire (s : Snapshot) (key : SlotKey)
  | release (guard : GuardId)
  | drop (guard : GuardId)
  | clear

namespace Ledger

def stepSlots (l : Ledger) : SlotEvent → Ledger
  | .acquire s k => (s.acquireSlot l k).2
  | .release g => l.release g
  | .drop g => l.drop g
  | .clear => l.clear

/-- Only a grant under the key itself makes the slots in use more. -/
theorem inUse_stepSlots (l : Ledger) (e : SlotEvent) (k : SlotKey) :
    (l.stepSlots e).inUse k ≤ l.inUse k ∨
      ∃ s m, e = .acquire s k ∧ s.maxConcurrency = some m ∧ (l.stepSlots e).inUse k ≤ m := by
  cases e with
  | acquire s k' =>
    rcases s.acquireSlot_cases l k' with ⟨m, g, l', limit, taken, same⟩ | ⟨reason, _, same⟩
    · obtain ⟨set, _⟩ := s.concurrencyLimit_some.mp limit
      have granted : (s.acquireSlot l k').1.isAcquired = true := by rw [same]; rfl
      obtain ⟨count, within⟩ := s.acquireSlot_granted l k' granted
      by_cases own : k = k'
      · subst own
        exact Or.inr ⟨s, m, rfl, set, within m set⟩
      · refine Or.inl (UInt64.le_iff_toNat_le.mpr ?_)
        rw [stepSlots, count k, if_neg own]
        exact Nat.le_refl _
    · refine Or.inl ?_
      rw [stepSlots, same]
      exact UInt64.le_refl _
  | release g =>
    refine Or.inl (UInt64.le_iff_toNat_le.mpr ?_)
    rw [stepSlots, inUse_release]
    exact Nat.sub_le ..
  | drop g =>
    refine Or.inl (UInt64.le_iff_toNat_le.mpr ?_)
    have same : (l.drop g).inUse k = (l.release g).inUse k := rfl
    rw [stepSlots, same, inUse_release]
    exact Nat.sub_le ..
  | clear => exact Or.inl (UInt64.le_iff_toNat_le.mpr (Nat.zero_le _))

end Ledger

structure SlotHistory extends History Ledger.stepSlots where
  new : start = {}

namespace SlotHistory
open History

variable {h : SlotHistory}

/-- In the `n`th event a slot is asked for under `k`, with the limit that `s` sets. -/
def Requests (h : SlotHistory) (n : Nat) (s : Snapshot) (k : SlotKey) : Prop :=
  h.events[n]? = some (.acquire s k)

/-- What the `n`th event answers if it is such a request. -/
def outcome (h : SlotHistory) (n : Nat) (s : Snapshot) (k : SlotKey) : SlotOutcome :=
  (s.acquireSlot (h.state n) k).1

theorem state_requested {n : Nat} {s : Snapshot} {k : SlotKey} (requested : h.Requests n s k) :
    h.state (n + 1) = (s.acquireSlot (h.state n) k).2 := by
  rw [state_succ requested, Ledger.stepSlots]

/-- The induction is on the state: what one event adds for `k`, it adds within a limit of its own. -/
theorem inUse_bounded (h : SlotHistory) {k : SlotKey} {bound : Nat}
    (limits : ∀ n s m, h.Requests n s k → s.maxConcurrency = some m → m.toNat ≤ bound) (n : Nat) :
    ((h.state n).inUse k).toNat ≤ bound := by
  refine h.invariant (P := fun l => (l.inUse k).toNat ≤ bound) ?_ ?_ n
  · rw [h.new]
    exact Nat.zero_le _
  · intro j e happened before
    rcases (h.state j).inUse_stepSlots e k with fewer | ⟨s, m, rfl, set, within⟩
    · exact Nat.le_trans (UInt64.le_iff_toNat_le.mp fewer) before
    · exact Nat.le_trans (UInt64.le_iff_toNat_le.mp within) (limits j s m happened set)

/-- A slot is granted exactly if its snapshot sets a positive limit above what is in use, and what bounds all limits
that were applied bounds what is in use. -/
theorem concurrency_limit (h : SlotHistory) :
    (∀ n s k, h.Requests n s k →
      ((h.outcome n s k).isAcquired = true ↔
        ∃ m, s.maxConcurrency = some m ∧ 0 < m ∧ (h.state n).inUse k < m) ∧
      ((h.outcome n s k).isAcquired = true →
        (∀ k', ((h.state (n + 1)).inUse k').toNat =
          ((h.state n).inUse k').toNat + if k' = k then 1 else 0) ∧
        ∀ m, s.maxConcurrency = some m → (h.state (n + 1)).inUse k ≤ m) ∧
      ((h.outcome n s k).isAcquired = false →
        h.state (n + 1) = h.state n ∧
        ∃ reason, h.outcome n s k =
          .denied (s.concurrencyLimit.getD 0) ((h.state n).inUse k) reason)) ∧
    (∀ (k : SlotKey) (bound : Nat),
      (∀ n s m, h.Requests n s k → s.maxConcurrency = some m → m.toNat ≤ bound) →
      ∀ n, ((h.state n).inUse k).toNat ≤ bound) := by
  refine ⟨?_, fun k bound limits => h.inUse_bounded limits⟩
  intro n s k requested
  refine ⟨s.acquireSlot_isAcquired _ k, ?_, ?_⟩
  · intro granted
    rw [state_requested requested]
    exact s.acquireSlot_granted _ k granted
  · intro refused
    rw [state_requested requested]
    rcases s.acquireSlot_cases (h.state n) k with ⟨_, g, l', _, _, same⟩ | ⟨reason, _, same⟩
    · rw [outcome, same] at refused
      cases refused
    · rw [outcome, same]
      exact ⟨rfl, reason, rfl⟩

def sharedKey : SlotKey := ⟨"instance", .product⟩

def limitedTo (m : UInt64) : Snapshot := { maxConcurrency := some m }

/-- Two slots are taken under a limit of two. The limit falls to one, and to none, while both are held; one of
them is given back, which is not yet enough for the lower limit. -/
def loweredLimit : SlotHistory :=
  ⟨⟨{}, [.acquire (limitedTo 2) sharedKey, .acquire (limitedTo 2) sharedKey, .acquire (limitedTo 1) sharedKey,
    .acquire (limitedTo 0) sharedKey, .release 0, .acquire (limitedTo 1) sharedKey]⟩, rfl⟩

theorem loweredLimit_holds_on :
    (∀ n s m, loweredLimit.Requests n s sharedKey → s.maxConcurrency = some m → m.toNat ≤ 2) ∧
    (loweredLimit.state 4).inUse sharedKey = 2 ∧
    (loweredLimit.outcome 5 (limitedTo 1) sharedKey).isAcquired = false ∧
    ∀ n, ((loweredLimit.state n).inUse sharedKey).toNat ≤ 2 := by
  have limits (n : Nat) (s : Snapshot) (m : UInt64) (requested : loweredLimit.Requests n s sharedKey)
      (set : s.maxConcurrency = some m) : m.toNat ≤ 2 := by
    have member := List.mem_of_getElem? requested
    simp only [loweredLimit, List.mem_cons, SlotEvent.acquire.injEq, List.not_mem_nil, or_false, reduceCtorEq,
      false_or] at member
    rcases member with ⟨rfl, _⟩ | ⟨rfl, _⟩ | ⟨rfl, _⟩ | ⟨rfl, _⟩ | ⟨rfl, _⟩ <;> cases set <;> decide
  exact ⟨limits, rfl, rfl, (concurrency_limit loweredLimit).2 sharedKey 2 limits⟩

end SlotHistory

end Entitlement
