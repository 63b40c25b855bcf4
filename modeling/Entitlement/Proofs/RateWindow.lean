import Entitlement.Proofs.History
import Entitlement.RateWindow
import Mathlib.Data.Finset.Card
import Mathlib.Data.List.TakeWhile

/-!
What a sliding window keeps. The readings of the clock may come in any order, yet the events are always in order
of time, so that what has expired stands in front. An event stays from when it is recorded until a reset, or
until something is recorded or read more than a window later; nothing else is there, and a rate counts what is
there up to its own time (`window_keeps_recent`).
-/

namespace Entitlement

/-- What is done with a window. The times are those of the callers, in whatever order they come. -/
inductive WindowEvent
  | record (now : Instant)
  | read (now : Instant)
  | reset
  deriving DecidableEq, Repr

namespace WindowEvent

def recorded? : WindowEvent → Option Instant
  | record now => some now
  | read _ | reset => none

def time? : WindowEvent → Option Instant
  | record now | read now => some now
  | reset => none

/-- The event leaves no `e` in a window of this length. -/
def drops (length : Duration) (e : Instant) : WindowEvent → Bool
  | record now | read now => e.nanos + length.nanos < now.nanos
  | reset => true

theorem drops_eq_false {length : Duration} {e : Instant} {event : WindowEvent} :
    event.drops length e = false ↔
      event ≠ .reset ∧ ∀ t ∈ event.time?, t.nanos ≤ e.nanos + length.nanos := by
  cases event <;> simp [drops, time?]

end WindowEvent

namespace RateWindow

variable {w : RateWindow}

def Ordered (events : List Instant) : Prop := events.Pairwise fun a b => a.nanos ≤ b.nanos

def step (w : RateWindow) : WindowEvent → RateWindow
  | .record now => w.recordEvent now
  | .read now => (w.currentRate now).2
  | .reset => w.reset

/-! ### One event -/

/-- Where all that satisfy `p` stand in front, dropping from the front drops them all. -/
theorem dropWhile_eq_filter {α : Type} {p : α → Bool} {l : List α}
    (front : l.Pairwise fun a b => p b = true → p a = true) : l.dropWhile p = l.filter (!p ·) := by
  induction l with
  | nil => rfl
  | cons a l ih =>
    obtain ⟨first, rest⟩ := List.pairwise_cons.mp front
    cases leads : p a with
    | true => simp only [List.dropWhile_cons, List.filter_cons, leads, ↓reduceIte, Bool.not_true,
        Bool.false_eq_true, ih rest]
    | false =>
      have kept : l.filter (!p ·) = l := by
        refine List.filter_eq_self.mpr fun b member => ?_
        cases follows : p b with
        | true => exact (Bool.false_ne_true (leads.symm.trans (first b member follows))).elim
        | false => rfl
      simp only [List.dropWhile_cons, List.filter_cons, leads, Bool.false_eq_true, ↓reduceIte, Bool.not_false, kept]

theorem expired_eq (w : RateWindow) (now e : Instant) :
    w.expired now e = decide (e.nanos + w.length.nanos < now.nanos) := by
  have same : w.length.nanos < (now.since e).nanos ↔ e.nanos + w.length.nanos < now.nanos := by
    simp only [Instant.since]
    omega
  exact decide_eq_decide.mpr same

theorem prune_events (ordered : Ordered w.events) (now : Instant) :
    (w.prune now).events = w.events.filter (!w.expired now ·) := by
  refine dropWhile_eq_filter (ordered.imp fun {a b} earlier late => ?_)
  simp only [expired_eq, decide_eq_true_eq] at late ⊢
  omega

theorem later_eq_filter {events : List Instant} (ordered : Ordered events) (now : Instant) :
    events.dropWhile (·.nanos ≤ now.nanos) = events.filter fun e => !decide (e.nanos ≤ now.nanos) := by
  refine dropWhile_eq_filter (ordered.imp fun {a b} earlier late => ?_)
  simp only [decide_eq_true_eq] at late ⊢
  exact Nat.le_trans earlier late

theorem insertEvent_perm (now : Instant) (events : List Instant) :
    (insertEvent now events).Perm (now :: events) := by
  refine List.perm_middle.trans ?_
  rw [List.takeWhile_append_dropWhile]

theorem insertEvent_ordered {events : List Instant} (ordered : Ordered events) (now : Instant) :
    Ordered (insertEvent now events) := by
  have sooner : ∀ a ∈ events.takeWhile (·.nanos ≤ now.nanos), a.nanos ≤ now.nanos := by
    intro a member
    have reached := List.mem_takeWhile_imp member
    exact of_decide_eq_true reached
  have later : ∀ b ∈ events.dropWhile (·.nanos ≤ now.nanos), now.nanos ≤ b.nanos := by
    intro b member
    rw [later_eq_filter ordered] at member
    have past := (List.mem_filter.mp member).2
    simp only [Bool.not_eq_eq_eq_not, Bool.not_true, decide_eq_false_iff_not] at past
    omega
  refine List.pairwise_append.mpr ⟨ordered.sublist (List.takeWhile_sublist _), ?_, ?_⟩
  · exact List.pairwise_cons.mpr ⟨later, ordered.sublist (List.dropWhile_sublist _)⟩
  · intro a before b after
    rcases List.mem_cons.mp after with rfl | after
    · exact sooner a before
    · exact Nat.le_trans (sooner a before) (later b after)

theorem prune_ordered (ordered : Ordered w.events) (now : Instant) : Ordered (w.prune now).events :=
  ordered.sublist (List.dropWhile_sublist _)

theorem step_ordered (ordered : Ordered w.events) (event : WindowEvent) : Ordered (w.step event).events := by
  cases event with
  | record now => exact prune_ordered (w := { w with events := _ }) (insertEvent_ordered ordered now) now
  | read now => exact prune_ordered ordered now
  | reset => exact List.Pairwise.nil

theorem step_length (w : RateWindow) (event : WindowEvent) : (w.step event).length = w.length := by
  cases event <;> rfl

/-- Of the events with a property those are left that the event does not drop, and one that it records comes in
addition: its own time never drops it. -/
theorem countP_step (ordered : Ordered w.events) (event : WindowEvent) (p : Instant → Bool) :
    (w.step event).events.countP p =
      w.events.countP (fun e => p e && !event.drops w.length e) + if event.recorded?.any p then 1 else 0 := by
  have pruned (now : Instant) {events : List Instant} (ordered : Ordered events) :
      (prune { w with events } now).events.countP p =
        events.countP fun e => p e && !decide (e.nanos + w.length.nanos < now.nanos) := by
    rw [prune_events (w := { w with events }) ordered, List.countP_filter]
    simp only [expired_eq]
  cases event with
  | record now =>
    have own : (!decide (now.nanos + w.length.nanos < now.nanos)) = true := by
      simp only [Bool.not_eq_eq_eq_not, Bool.not_true, decide_eq_false_iff_not]
      omega
    rw [step, recordEvent, pruned now (insertEvent_ordered ordered now), (insertEvent_perm now _).countP_eq,
      List.countP_cons, own, Bool.and_true]
    rfl
  | read now =>
    rw [step, currentRate, pruned now ordered]
    rfl
  | reset => simp [step, reset, WindowEvent.drops, WindowEvent.recorded?]

end RateWindow

/-- What has been done with a window that was empty at first. -/
structure WindowHistory extends History RateWindow.step where
  blank : start.events = []

namespace WindowHistory
open History

variable {h : WindowHistory}

def recorded? (h : WindowHistory) (n : Nat) : Option Instant := h.events[n]?.bind WindowEvent.recorded?

def time? (h : WindowHistory) (n : Nat) : Option Instant := h.events[n]?.bind WindowEvent.time?

/-- Between the `m`th event and the `n`th the window is not reset. -/
def Unbroken (h : WindowHistory) (m n : Nat) : Prop := ∀ j < n, m < j → h.events[j]? ≠ some .reset

instance (h : WindowHistory) (m n : Nat) : Decidable (h.Unbroken m n) :=
  inferInstanceAs (Decidable (∀ j < n, m < j → _))

/-- Nothing was done, from the `m`th event up to `n`, at a time more than a window later than `e`. -/
def Young (h : WindowHistory) (m n : Nat) (e : Instant) : Prop :=
  ∀ j < n, m ≤ j → ∀ t ∈ h.time? j, t.nanos ≤ e.nanos + h.start.length.nanos

instance (h : WindowHistory) (m n : Nat) (e : Instant) : Decidable (h.Young m n e) :=
  inferInstanceAs (Decidable (∀ j < n, m ≤ j → _))

/-- The places, among the first `n`, at which events with the property `p` were recorded that are to be kept:
there has been no reset since, and nothing more than a window later. -/
def kept (h : WindowHistory) (n : Nat) (p : Instant → Bool) : Finset Nat :=
  (Finset.range n).filter fun m => ∃ e ∈ h.recorded? m, p e = true ∧ h.Unbroken m n ∧ h.Young m n e

/-- The places, among the first `n`, at which events were recorded that are no older than a window at `t`, with no
reset since. -/
def recent (h : WindowHistory) (n : Nat) (t : Instant) : Finset Nat :=
  (Finset.range n).filter fun m =>
    ∃ e ∈ h.recorded? m, h.Unbroken m n ∧ t.nanos - e.nanos ≤ h.start.length.nanos

theorem ordered (h : WindowHistory) (n : Nat) : RateWindow.Ordered (h.state n).events := by
  refine h.invariant (P := fun w => RateWindow.Ordered w.events) ?_ (fun _ event _ => ?_) n
  · rw [h.blank]
    exact List.Pairwise.nil
  · exact fun before => RateWindow.step_ordered before event

theorem length (h : WindowHistory) (n : Nat) : (h.state n).length = h.start.length :=
  h.invariant (P := fun w => w.length = h.start.length) rfl
    (fun _ event _ same => (RateWindow.step_length _ event).trans same) n

theorem time_of_recorded {n : Nat} {e : Instant} (recorded : e ∈ h.recorded? n) : e ∈ h.time? n := by
  obtain ⟨event, happened, same⟩ := Option.bind_eq_some_iff.mp recorded
  cases event with
  | record now => exact Option.bind_eq_some_iff.mpr ⟨_, happened, same⟩
  | read | reset => cases same

theorem unbroken_succ {m n : Nat} (before : m < n) :
    h.Unbroken m (n + 1) ↔ h.Unbroken m n ∧ h.events[n]? ≠ some .reset := by
  constructor
  · intro unbroken
    exact ⟨fun j sooner => unbroken j (Nat.lt_succ_of_lt sooner), unbroken n (Nat.lt_succ_self n) before⟩
  · rintro ⟨unbroken, last⟩ j sooner after
    rcases Nat.lt_succ_iff_lt_or_eq.mp sooner with sooner | rfl
    · exact unbroken j sooner after
    · exact last

theorem young_succ {m n : Nat} (before : m ≤ n) {e : Instant} :
    h.Young m (n + 1) e ↔ h.Young m n e ∧ ∀ t ∈ h.time? n, t.nanos ≤ e.nanos + h.start.length.nanos := by
  constructor
  · intro young
    exact ⟨fun j sooner => young j (Nat.lt_succ_of_lt sooner), young n (Nat.lt_succ_self n) before⟩
  · rintro ⟨young, last⟩ j sooner after
    rcases Nat.lt_succ_iff_lt_or_eq.mp sooner with sooner | rfl
    · exact young j sooner after
    · exact last

/-- What is to be kept after one event more: of what was to be kept before, what that event does not drop, and
what it records itself. -/
theorem card_kept_succ {n : Nat} {event : WindowEvent} (happened : h.events[n]? = some event)
    (p : Instant → Bool) :
    (h.kept (n + 1) p).card =
      (h.kept n fun e => p e && !event.drops h.start.length e).card + if event.recorded?.any p then 1 else 0 := by
  have recorded : h.recorded? n = event.recorded? := by rw [recorded?, happened, Option.bind_some]
  have time : h.time? n = event.time? := by rw [time?, happened, Option.bind_some]
  have earlier : (Finset.range n).filter (fun m => ∃ e ∈ h.recorded? m, p e = true ∧ h.Unbroken m (n + 1) ∧
      h.Young m (n + 1) e) = h.kept n fun e => p e && !event.drops h.start.length e := by
    refine Finset.filter_congr fun m before => ?_
    have before := Finset.mem_range.mp before
    simp only [unbroken_succ before, young_succ (Nat.le_of_lt before), happened, time, Bool.and_eq_true,
      Bool.not_eq_eq_eq_not, Bool.not_true, WindowEvent.drops_eq_false, ne_eq, Option.some.injEq]
    refine exists_congr fun e => and_congr_right fun _ => ?_
    tauto
  have latest : (∃ e ∈ h.recorded? n, p e = true ∧ h.Unbroken n (n + 1) ∧ h.Young n (n + 1) e) ↔
      event.recorded?.any p = true := by
    -- A reading of the clock is not later than itself, so nothing expires when it is recorded.
    have fresh (e : Instant) (own : e ∈ event.recorded?) : h.Unbroken n (n + 1) ∧ h.Young n (n + 1) e := by
      refine ⟨fun j sooner after => by omega, fun j sooner after t read => ?_⟩
      obtain rfl : j = n := by omega
      cases event with
      | record now =>
        rw [time] at read
        cases own
        cases read
        exact Nat.le_add_right _ _
      | read | reset => cases own
    rw [recorded, Option.any_eq_true]
    constructor
    · rintro ⟨e, own, holds, _⟩
      exact ⟨e, own, holds⟩
    · rintro ⟨e, own, holds⟩
      exact ⟨e, own, holds, fresh e own⟩
  rw [kept, Finset.range_add_one, Finset.filter_insert, earlier]
  split
  · next own =>
    rw [if_pos (latest.mp own), Finset.card_insert_of_notMem]
    intro member
    exact Nat.lt_irrefl n (Finset.mem_range.mp (Finset.mem_filter.mp member).1)
  · next other => rw [if_neg (mt latest.mpr other), Nat.add_zero]

/-- The induction is for all properties at once: that of the events kept now is one of those kept before. -/
theorem countP_state (h : WindowHistory) (n : Nat) (p : Instant → Bool) :
    (h.state n).events.countP p = (h.kept n p).card := by
  induction n generalizing p with
  | zero =>
    rw [state_zero, h.blank]
    rfl
  | succ n ih =>
    cases happened : h.events[n]? with
    | some event =>
      rw [state_succ happened, RateWindow.countP_step (h.ordered n), h.length n, ih, card_kept_succ happened]
    | none =>
      have silent : h.recorded? n = none := by rw [recorded?, happened, Option.bind_none]
      have time : h.time? n = none := by rw [time?, happened, Option.bind_none]
      rw [state_succ_of_none happened, ih, kept, kept, Finset.range_add_one, Finset.filter_insert, if_neg]
      · refine congrArg Finset.card (Finset.filter_congr fun m before => ?_)
        have before := Finset.mem_range.mp before
        simp only [unbroken_succ before, young_succ (Nat.le_of_lt before), happened, time, ne_eq, reduceCtorEq,
          not_false_eq_true, and_true, Option.not_mem_none, false_imp_iff, implies_true]
      · rw [silent]
        rintro ⟨e, absent, _⟩
        cases absent

/-- A reading counts what is left after it, and this is what is to be kept, itself taken into account. -/
theorem rate_kept (h : WindowHistory) {n : Nat} {t : Instant} (read : h.events[n]? = some (.read t)) :
    ((h.state n).currentRate t).1 =
      Float.ofNat (h.kept (n + 1) (·.nanos ≤ t.nanos)).card / h.start.length.toFloat := by
  rw [← h.countP_state, state_succ read, ← h.length n]
  rfl

/-- Where no time has been later than that of the reading, what is to be kept is what is recent. -/
theorem kept_eq_recent (h : WindowHistory) {n : Nat} {t : Instant} (read : h.events[n]? = some (.read t))
    (latest : ∀ j < n, h.Unbroken j n → ∀ u ∈ h.time? j, u.nanos ≤ t.nanos) :
    h.kept (n + 1) (·.nanos ≤ t.nanos) = h.recent n t := by
  have silent : h.recorded? n = none := by rw [recorded?, read]; rfl
  have time : h.time? n = some t := by rw [time?, read]; rfl
  have unreset : h.events[n]? ≠ some .reset := by rw [read]; exact nofun
  ext m
  rw [kept, recent, Finset.mem_filter, Finset.mem_filter, Finset.mem_range, Finset.mem_range]
  constructor
  · rintro ⟨sooner, e, recorded, _, unbroken, young⟩
    have before : m < n := by
      refine Nat.lt_of_le_of_ne (Nat.le_of_lt_succ sooner) ?_
      rintro rfl
      cases silent.symm.trans recorded
    have age := ((young_succ (Nat.le_of_lt before)).mp young).2 t time
    exact ⟨before, e, recorded, ((unbroken_succ before).mp unbroken).1, by omega⟩
  · rintro ⟨before, e, recorded, unbroken, age⟩
    have unbroken_after (j : Nat) (after : m ≤ j) : h.Unbroken j n :=
      fun i sooner later => unbroken i sooner (Nat.lt_of_le_of_lt after later)
    have reached : e.nanos ≤ t.nanos := latest m before unbroken e (time_of_recorded recorded)
    have young : h.Young m n e := by
      intro j sooner after u read_at
      have bound := latest j sooner (unbroken_after j after) u read_at
      omega
    refine ⟨Nat.lt_succ_of_lt before, e, recorded, decide_eq_true reached, (unbroken_succ before).mpr ⟨unbroken, unreset⟩,
      (young_succ (Nat.le_of_lt before)).mpr ⟨young, ?_⟩⟩
    intro u read_at
    cases time.symm.trans read_at
    omega

/-- A window holds, in order of time, what was recorded since the last reset, but for what something more than a
window later has pushed out. -/
theorem window_keeps_recent (h : WindowHistory) :
    (∀ n, RateWindow.Ordered (h.state n).events) ∧
    (∀ n p, (h.state n).events.countP p = (h.kept n p).card) ∧
    (∀ n t, h.events[n]? = some (.read t) →
      ((h.state n).currentRate t).1 =
        Float.ofNat (h.kept (n + 1) (·.nanos ≤ t.nanos)).card / h.start.length.toFloat) ∧
    (∀ n t, h.events[n]? = some (.read t) →
      (∀ j < n, h.Unbroken j n → ∀ u ∈ h.time? j, u.nanos ≤ t.nanos) →
      ((h.state n).currentRate t).1 = Float.ofNat (h.recent n t).card / h.start.length.toFloat) := by
  refine ⟨h.ordered, h.countP_state, fun n t read => h.rate_kept read, ?_⟩
  intro n t read latest
  rw [h.rate_kept read, h.kept_eq_recent read latest]

/-- Events come out of order. The second one is a window old at the reading and still counts; the third is older
and does not. After the reset only what is recorded anew is there. -/
def lateArrivals : WindowHistory where
  start := ⟨⟨10⟩, []⟩
  blank := rfl
  events := [.record ⟨13⟩, .record ⟨10⟩, .record ⟨9⟩, .record ⟨13⟩, .read ⟨20⟩, .reset, .record ⟨4⟩]

theorem lateArrivals_rate :
    lateArrivals.events[4]? = some (.read ⟨20⟩) ∧
    (∀ j < 4, lateArrivals.Unbroken j 4 → ∀ u ∈ lateArrivals.time? j, u.nanos ≤ 20) ∧
    (lateArrivals.state 5).events = [⟨10⟩, ⟨13⟩, ⟨13⟩] ∧ (lateArrivals.state 7).events = [⟨4⟩] ∧
    ((lateArrivals.state 4).currentRate ⟨20⟩).1 = Float.ofNat 3 / (Duration.mk 10).toFloat := by
  have latest : ∀ j < 4, lateArrivals.Unbroken j 4 → ∀ u ∈ lateArrivals.time? j, u.nanos ≤ 20 := by decide
  have three : (lateArrivals.recent 4 ⟨20⟩).card = 3 := by decide
  have rate := (window_keeps_recent lateArrivals).2.2.2 4 ⟨20⟩ rfl latest
  rw [three] at rate
  exact ⟨rfl, latest, rfl, rfl, rate⟩

end WindowHistory

end Entitlement
