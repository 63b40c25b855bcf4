import Entitlement.Ledger.Event
import Entitlement.Proofs.History
import Entitlement.Proofs.Ledger.Guards
import Mathlib.Data.Set.Card

/-!
Slot accounting. In every state of a history the count of a key is the number of guards that were handed out
for it and have not been given back, or lost to a clearing, since; the keys of the ledger are those with such
guards; and a guard that has been given back or lost gives back nothing more (`slot_accounting`).
-/

namespace Entitlement

/-- The event takes the slot of the guard `g`, if it still has one. -/
def LedgerEvent.ends (g : GuardId) : LedgerEvent → Bool
  | .tryAcquire .. => false
  | .release g' | .drop g' => g' = g
  | .clear => true

namespace Ledger

variable {l : Ledger}

/-- After an event a guard holds a slot if it held one that the event does not take, or if it has just been
handed out. -/
theorem holds_step (sound : Sound l) {e : LedgerEvent} (room : e = .clear → l.generation.toNat + 1 < UInt64.size)
    (g : GuardId) (k : SlotKey) :
    (l.step e).Holds g k ↔ (l.Holds g k ∧ e.ends g = false) ∨
      ∃ max l', e = .tryAcquire k max ∧ l.tryAcquire k max = .ok (g, l') := by
  cases e with
  | tryAcquire k' max =>
    simp only [step, LedgerEvent.ends, and_true, LedgerEvent.tryAcquire.injEq]
    cases taken : l.tryAcquire k' max with
    | error e =>
      constructor
      · exact Or.inl
      · rintro (holds | ⟨_, _, ⟨rfl, rfl⟩, taken'⟩)
        · exact holds
        · cases taken.symm.trans taken'
    | ok granted =>
      obtain ⟨g', l'⟩ := granted
      rw [holds_tryAcquire sound taken]
      refine or_congr Iff.rfl ⟨?_, ?_⟩
      · rintro ⟨rfl, rfl⟩
        exact ⟨max, l', ⟨rfl, rfl⟩, taken⟩
      · rintro ⟨_, _, ⟨rfl, rfl⟩, taken'⟩
        cases taken.symm.trans taken'
        exact ⟨rfl, rfl⟩
  | release g' =>
    simp only [step, holds_release, LedgerEvent.ends, decide_eq_false_iff_not, reduceCtorEq, false_and,
      exists_false, or_false, ne_comm (a := g), ne_eq]
  | drop g' =>
    simp only [step, holds_drop, LedgerEvent.ends, decide_eq_false_iff_not, reduceCtorEq, false_and,
      exists_false, or_false, ne_comm (a := g), ne_eq]
  | clear =>
    simp only [step, clear_holds sound (room rfl), LedgerEvent.ends, Bool.true_eq_false, and_false, reduceCtorEq,
      false_and, exists_false, or_false]

theorem Sound.step (sound : Sound l) {e : LedgerEvent}
    (room : e = .clear → l.generation.toNat + 1 < UInt64.size) : Sound (l.step e) := by
  cases e with
  | tryAcquire k max =>
    simp only [Ledger.step]
    split
    · next taken => exact sound.tryAcquire taken
    · exact sound
  | release g => exact sound.release g
  | drop g => exact sound.drop g
  | clear => exact sound.clear (room rfl)

/-- A guard is numbered when it is handed out, and the numbers go up. -/
theorem nextGuard_step (l : Ledger) (e : LedgerEvent) : l.nextGuard ≤ (l.step e).nextGuard := by
  cases e with
  | tryAcquire k max =>
    simp only [step]
    split
    · next taken =>
      obtain ⟨_, _, rfl⟩ := tryAcquire_ok taken
      exact Nat.le_succ _
    · exact Nat.le_refl _
  | release g => exact Nat.le_of_eq (l.release_frame g).2.symm
  | drop g => exact Nat.le_of_eq (l.drop_frame g).2.2.symm
  | clear => exact Nat.le_refl _

theorem generation_step (l : Ledger) (e : LedgerEvent) :
    (l.step e).generation = if e = .clear then l.generation + 1 else l.generation := by
  cases e with
  | tryAcquire k max =>
    simp only [step, reduceCtorEq, ↓reduceIte]
    split
    · next taken =>
      obtain ⟨_, _, rfl⟩ := tryAcquire_ok taken
      rfl
    · rfl
  | release g => exact (l.release_frame g).1
  | drop g => exact (l.drop_frame g).2.1
  | clear => rfl

end Ledger

/-- What has been done with a ledger and its guards since it was new. -/
structure LedgerHistory extends History Ledger.step where
  new : start = {}

namespace LedgerHistory
open History

variable {h : LedgerHistory}

/-- The guard that is handed out for `k` in the `n`th event. -/
def granted? (h : LedgerHistory) (n : Nat) (k : SlotKey) : Option GuardId :=
  match h.events[n]? with
  | some (.tryAcquire k' max) =>
    if k' = k then ((h.state n).tryAcquire k max).toOption.map Prod.fst else none
  | _ => none

def Ends (h : LedgerHistory) (n : Nat) (g : GuardId) : Prop := ∃ e ∈ h.events[n]?, e.ends g = true

instance (h : LedgerHistory) (n : Nat) (g : GuardId) : Decidable (h.Ends n g) :=
  inferInstanceAs (Decidable (∃ e ∈ h.events[n]?, _))

/-- A guard was handed out for `k` in the `m`th event, and has been neither released nor dropped since, nor
has the ledger been cleared. -/
def Holds (h : LedgerHistory) (n m : Nat) (k : SlotKey) : Prop :=
  ∃ g ∈ h.granted? m k, ∀ j < n, m < j → ¬ h.Ends j g

instance (h : LedgerHistory) (n m : Nat) (k : SlotKey) : Decidable (h.Holds n m k) :=
  inferInstanceAs (Decidable (∃ g ∈ h.granted? m k, _))

/-- The events in which the guards were handed out that hold slots under `k` after `n` events. -/
def held (h : LedgerHistory) (n : Nat) (k : SlotKey) : Finset Nat := (Finset.range n).filter (h.Holds n · k)

theorem granted?_some {n : Nat} {k : SlotKey} {g : GuardId} :
    g ∈ h.granted? n k ↔ ∃ max l', h.events[n]? = some (.tryAcquire k max) ∧
      (h.state n).tryAcquire k max = .ok (g, l') := by
  constructor
  · intro granted
    unfold granted? at granted
    split at granted
    · next k' max happened =>
      split at granted
      · next same =>
        subst same
        cases taken : (h.state n).tryAcquire k' max with
        | ok both =>
          rw [taken] at granted
          cases granted
          exact ⟨max, both.2, happened, taken⟩
        | error e =>
          rw [taken] at granted
          cases granted
      · cases granted
    · cases granted
  · rintro ⟨max, l', happened, taken⟩
    simp [granted?, happened, taken, Except.toOption]

/-! ### The guards in force are those handed out and not given back -/

theorem clears_succ {n : Nat} {e : LedgerEvent} (happened : h.events[n]? = some e) :
    (h.events.take (n + 1)).count .clear = (h.events.take n).count .clear + if e = .clear then 1 else 0 := by
  rw [List.take_add_one, happened, List.count_append]
  simp [List.count_singleton]

theorem generation (h : LedgerHistory) (few : h.events.count .clear < UInt64.size) (n : Nat) :
    (h.state n).generation.toNat = (h.events.take n).count .clear := by
  induction n with
  | zero =>
    rw [state_zero, h.new]
    rfl
  | succ n ih =>
    cases happened : h.events[n]? with
    | none =>
      rw [state_succ_of_none happened, ih, List.take_add_one, happened]
      simp
    | some e =>
      have bound := (List.take_sublist (n + 1) h.events).count_le .clear
      rw [clears_succ happened] at bound ⊢
      rw [state_succ happened, Ledger.generation_step, ← ih]
      split
      · next cleared =>
        rw [if_pos cleared] at bound
        rw [UInt64.toNat_add]
        refine Nat.mod_eq_of_lt ?_
        rw [ih]
        exact Nat.lt_of_le_of_lt bound few
      · rfl

theorem room (few : h.events.count .clear < UInt64.size) {n : Nat} {e : LedgerEvent}
    (happened : h.events[n]? = some e) (cleared : e = .clear) :
    (h.state n).generation.toNat + 1 < UInt64.size := by
  have bound := (List.take_sublist (n + 1) h.events).count_le .clear
  rw [clears_succ happened, if_pos cleared] at bound
  rw [h.generation few]
  exact Nat.lt_of_le_of_lt bound few

theorem sound (h : LedgerHistory) (few : h.events.count .clear < UInt64.size) (n : Nat) : (h.state n).Sound :=
  h.invariant (h.new ▸ Ledger.sound_empty) (fun _ _ happened sound => sound.step (room few happened)) n

theorem holds_succ (few : h.events.count .clear < UInt64.size) {n : Nat} {e : LedgerEvent}
    (happened : h.events[n]? = some e) (g : GuardId) (k : SlotKey) :
    (h.state (n + 1)).Holds g k ↔ ((h.state n).Holds g k ∧ ¬ h.Ends n g) ∨ g ∈ h.granted? n k := by
  rw [granted?_some, state_succ happened, Ledger.holds_step (h.sound few n) (room few happened)]
  simp [Ends, happened]

/-- A guard holds a slot exactly if it was handed out and nothing has taken its slot since. -/
theorem holds_iff (h : LedgerHistory) (few : h.events.count .clear < UInt64.size) (n : Nat) (g : GuardId)
    (k : SlotKey) :
    (h.state n).Holds g k ↔ ∃ m < n, g ∈ h.granted? m k ∧ ∀ j < n, m < j → ¬ h.Ends j g := by
  constructor
  · intro holds
    have nobody : ¬ h.start.Holds g k := by
      rw [h.new]
      exact nofun
    obtain ⟨m, _, sooner, granted, since⟩ :=
      came_between (P := fun l => l.Holds g k) (R := fun j => ¬ h.Ends j g) (Nat.zero_le n) nobody holds
        (fun _ _ happened => (holds_succ few happened g k).mp)
        (fun _ finished ended => by simp [Ends, finished] at ended)
    exact ⟨m, sooner, granted, fun j before after => since j after before⟩
  · rintro ⟨m, sooner, granted, since⟩
    obtain ⟨max, _, happened, _⟩ := granted?_some.mp granted
    have first : (h.state (m + 1)).Holds g k := (holds_succ few happened g k).mpr (Or.inr granted)
    -- The induction stops at `n`, for only up to there nothing has taken the slot.
    refine induction (P := fun i (l : Ledger) => i ≤ n → l.Holds g k) sooner (fun _ => first) ?_ ?_ (Nat.le_refl n)
    · intro i e after happened holds within
      rw [← state_succ happened]
      exact (holds_succ few happened g k).mpr
        (Or.inl ⟨holds (Nat.le_of_succ_le within), since i within after⟩)
    · intro i _ _ holds within
      exact holds (Nat.le_of_succ_le within)

/-! ### Counting -/

theorem nextGuard_mono (h : LedgerHistory) {m n : Nat} (later : m ≤ n) :
    (h.state m).nextGuard ≤ (h.state n).nextGuard :=
  induction (P := fun _ (l : Ledger) => (h.state m).nextGuard ≤ l.nextGuard) later (Nat.le_refl _)
    (fun _ e _ _ up => Nat.le_trans up (Ledger.nextGuard_step _ e)) (fun _ _ _ => id)

theorem granted_number {m : Nat} {k : SlotKey} {g : GuardId} (granted : g ∈ h.granted? m k) :
    g = (h.state m).nextGuard ∧ (h.state (m + 1)).nextGuard = g + 1 := by
  obtain ⟨max, l', happened, taken⟩ := granted?_some.mp granted
  obtain ⟨_, rfl, rfl⟩ := Ledger.tryAcquire_ok taken
  refine ⟨rfl, ?_⟩
  rw [state_succ happened, Ledger.step, taken]

theorem granted_once {m m' : Nat} {k k' : SlotKey} {g : GuardId} (granted : g ∈ h.granted? m k)
    (granted' : g ∈ h.granted? m' k') : m = m' := by
  obtain ⟨number, next⟩ := granted_number granted
  obtain ⟨number', next'⟩ := granted_number granted'
  rcases Nat.lt_trichotomy m m' with sooner | same | later
  · have up : (h.state (m + 1)).nextGuard ≤ (h.state m').nextGuard := h.nextGuard_mono sooner
    rw [next, ← number'] at up
    exact (Nat.not_succ_le_self g up).elim
  · exact same
  · have up : (h.state (m' + 1)).nextGuard ≤ (h.state m).nextGuard := h.nextGuard_mono later
    rw [next', ← number] at up
    exact (Nat.not_succ_le_self g up).elim

theorem mem_held {n m : Nat} {k : SlotKey} : m ∈ h.held n k ↔ m < n ∧ h.Holds n m k := by
  rw [held, Finset.mem_filter, Finset.mem_range]

theorem card_held (h : LedgerHistory) (few : h.events.count .clear < UInt64.size) (n : Nat) (k : SlotKey) :
    (h.held n k).card = ((h.state n).holders k).card := by
  -- A guard's number is the next number at the place where it was handed out.
  have image : (h.state n).holders k = (h.held n k).image fun m => (h.state m).nextGuard := by
    ext g
    rw [(h.sound few n).mem_holders, h.holds_iff few, Finset.mem_image]
    constructor
    · rintro ⟨m, before, granted, since⟩
      exact ⟨m, mem_held.mpr ⟨before, g, granted, since⟩, (granted_number granted).1.symm⟩
    · rintro ⟨m, member, number⟩
      obtain ⟨before, g', granted, since⟩ := mem_held.mp member
      have same : g' = g := (granted_number granted).1.trans number
      subst same
      exact ⟨m, before, granted, since⟩
  rw [image, Finset.card_image_of_injOn]
  intro m member m' member' same
  obtain ⟨_, g, granted, _⟩ := mem_held.mp (Finset.mem_coe.mp member)
  obtain ⟨_, g', granted', _⟩ := mem_held.mp (Finset.mem_coe.mp member')
  have number : g = g' := (granted_number granted).1.trans (same.trans (granted_number granted').1.symm)
  exact granted_once granted (number ▸ granted')

theorem inUse_held (h : LedgerHistory) (few : h.events.count .clear < UInt64.size) (n : Nat) (k : SlotKey) :
    ((h.state n).inUse k).toNat = (h.held n k).card := by
  rw [h.card_held few]
  exact (h.sound few n).counted k

theorem size_held (h : LedgerHistory) (few : h.events.count .clear < UInt64.size) (n : Nat) :
    (h.state n).size = {k | 0 < (h.held n k).card}.ncard := by
  have keys : {k | 0 < (h.held n k).card} = ((h.state n).counts.entries.map Prod.fst).toFinset := by
    ext k
    rw [Set.mem_ofPred_eq, ← h.inUse_held few, List.coe_toFinset, Set.mem_ofPred_eq, Table.mem_keys,
      Ledger.inUse]
    cases found : (h.state n).counts.find? k with
    | none => simp
    | some count =>
      simp only [Option.getD_some, Option.isSome_some, iff_true]
      refine Nat.pos_of_ne_zero fun none_left => (h.sound few n).positive k ?_
      rw [found, UInt64.toNat_inj.mp (none_left.trans UInt64.toNat_zero.symm)]
  rw [keys, Set.ncard_coe_finset, List.toFinset_card_of_nodup (h.state n).counts.nodup, List.length_map]
  rfl

theorem ended_holds_nothing (h : LedgerHistory) (few : h.events.count .clear < UInt64.size) {m j n : Nat}
    {g : GuardId} {k : SlotKey} (granted : g ∈ h.granted? m k) (after : m < j) (before : j < n)
    (ended : h.Ends j g) (k' : SlotKey) : ¬ (h.state n).Holds g k' := by
  intro holds
  obtain ⟨m', _, granted', since⟩ := (h.holds_iff few n g k').mp holds
  have same := granted_once granted granted'
  exact since j before (same ▸ after) ended

/-- The count of a key is the number of guards that were handed out for it and neither released nor dropped since, nor
lost to a clearing. -/
theorem slot_accounting (h : LedgerHistory) (few : h.events.count .clear < UInt64.size) :
    (∀ n k, ((h.state n).inUse k).toNat = (h.held n k).card) ∧
    (∀ n, (h.state n).size = {k | 0 < (h.held n k).card}.ncard) ∧
    (∀ n k, (h.state n).counts.find? k ≠ some 0) ∧
    (∀ m j n g k, m < j → j < n → g ∈ h.granted? m k → h.Ends j g → ∀ e, e = .release g ∨ e = .drop g →
      ((h.state n).step e).counts = (h.state n).counts ∧
      ((h.state n).step e).generation = (h.state n).generation ∧
      ∀ g' k', ((h.state n).step e).Holds g' k' ↔ (h.state n).Holds g' k') := by
  refine ⟨h.inUse_held few, h.size_held few, fun n => (h.sound few n).positive, ?_⟩
  intro m j n g k after before granted ended e again
  have idle := h.ended_holds_nothing few granted after before ended
  have others (g' : GuardId) (k' : SlotKey) : (h.state n).Holds g' k' → g' ≠ g := by
    rintro holds rfl
    exact idle k' holds
  rcases again with rfl | rfl
  · refine ⟨Ledger.release_counts idle, (Ledger.release_frame _ g).1, fun g' k' => ?_⟩
    exact ((h.state n).holds_release g g' k').trans (and_iff_left_of_imp (others g' k'))
  · refine ⟨Ledger.release_counts idle, (Ledger.release_frame _ g).1, fun g' k' => ?_⟩
    exact ((h.state n).holds_drop g g' k').trans (and_iff_left_of_imp (others g' k'))

def oneKey : SlotKey := ⟨"instance", .product⟩

/-- Two slots are taken, one is given back twice, the other is lost to a clearing, and one is taken anew before
the lost guard goes. -/
def clearedOnce : LedgerHistory where
  start := {}
  new := rfl
  events := [.tryAcquire oneKey 2, .tryAcquire oneKey 2, .release 0, .release 0, .clear, .tryAcquire oneKey 1,
    .drop 1]

theorem clearedOnce_accounts :
    clearedOnce.events.count .clear < UInt64.size ∧
    (clearedOnce.held 4 oneKey).card = 1 ∧ (clearedOnce.held 7 oneKey).card = 1 ∧
    ((clearedOnce.state 4).inUse oneKey).toNat = 1 ∧ ((clearedOnce.state 7).inUse oneKey).toNat = 1 := by
  have few : clearedOnce.events.count .clear < UInt64.size := by decide
  have first : (clearedOnce.held 4 oneKey).card = 1 := by decide
  have last : (clearedOnce.held 7 oneKey).card = 1 := by decide
  have counted := (slot_accounting clearedOnce few).1
  exact ⟨few, first, last, (counted 4 oneKey).trans first, (counted 7 oneKey).trans last⟩

end LedgerHistory

end Entitlement
