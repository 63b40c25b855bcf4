import Entitlement.Proofs.Client.Closing
import Entitlement.Proofs.RateWindow

/-!
What the client's own window counts. An attempt at an admission is recorded in it when the call comes, before a
snapshot is looked for and whatever becomes of the call; nothing else is recorded (`step_window`). As long as the
client is open and its clock does not go back, the window holds the attempts of the last stretch of its length, and
the rate that a call is held against counts these, the call itself among them (`attempts_counted`). A call reads the
clock once: that it moves on between the record of an attempt and the rate of the same call is not considered.
-/

namespace Entitlement

/-- The reading of the clock that an event comes with. -/
def ClientEvent.now? {App : Type} : ClientEvent App → Option Instant
  | .call _ m | .resume _ m => some m.now
  | .queryReply _ _ now | .registerReply _ _ now | .readRate now | .heartbeatTick now => some now
  | _ => none

namespace RateWindow

variable {w : RateWindow}

/-- `e` lies in the stretch of this length that ends with `t`, both ends included. -/
def within (length : Duration) (t e : Instant) : Bool := e.nanos ≤ t.nanos ∧ t.nanos ≤ e.nanos + length.nanos

/-- What lies within a window of `t` is dropped by nothing that is done up to `t`, a reset apart. -/
theorem countP_within (ordered : Ordered w.events) {event : WindowEvent} (kept : event ≠ .reset) {t : Instant}
    (latest : ∀ u ∈ event.time?, u.nanos ≤ t.nanos) :
    (w.step event).events.countP (within w.length t) =
      w.events.countP (within w.length t) + event.recorded?.toList.countP (within w.length t) := by
  rw [countP_step ordered]
  congr 1
  · refine List.countP_congr fun e _ => ?_
    have stays : within w.length t e = true → event.drops w.length e = false := by
      intro inside
      refine WindowEvent.drops_eq_false.mpr ⟨kept, fun u done => ?_⟩
      have sooner := latest u done
      have reaches := (of_decide_eq_true inside).2
      omega
    cases inside : within w.length t e with
    | false => simp
    | true => simp [stays inside]
  · cases event.recorded? with
    | none => rfl
    | some e => simp [List.countP_singleton]

/-- A reading counts what lies within the window that it ends. -/
theorem currentRate_within (ordered : Ordered w.events) (t : Instant) :
    (w.currentRate t).1 = Float.ofNat (w.events.countP (within w.length t)) / w.length.toFloat := by
  have counted : (w.prune t).events.countP (·.nanos ≤ t.nanos) = w.events.countP (within w.length t) := by
    rw [prune_events ordered, List.countP_filter]
    refine List.countP_congr fun e _ => ?_
    simp only [expired_eq, within, Bool.and_eq_true, Bool.not_eq_eq_eq_not, Bool.not_true, decide_eq_true_eq,
      decide_eq_false_iff_not, Nat.not_lt]
  rw [currentRate, rateAt, counted]
  rfl

end RateWindow

namespace Client

variable {App : Type} {c : Client App}

/-- When an attempt at an admission is made, if the event is one: a call of such a kind on an open client. -/
def attempt? (c : Client App) : ClientEvent App → Option Instant
  | .call request m =>
    if !c.closed && request.isAttempt c.providers.isRegistered then some m.now else none
  | _ => none

/-- What an event does with the window, if it does anything. -/
def windowEvent? (c : Client App) : ClientEvent App → Option WindowEvent
  | .readRate now => some (.read now)
  | .close => if c.closed then none else some .reset
  | e => (c.attempt? e).map .record

theorem step_window (c : Client App) (e : ClientEvent App) :
    (c.step e).window = (c.windowEvent? e).elim c.window c.window.step := by
  by_cases plain : e.IsPlain
  · have nothing : c.windowEvent? e = none := by
      cases e with
      | call | readRate | close => exact plain.elim
      | _ => rfl
    obtain ⟨_, _, _, _, _, _, _, same⟩ := c.step_frame plain
    rw [same, nothing]
    rfl
  cases e with
  | call request m =>
    simp only [step, start_window, windowEvent?, attempt?]
    split <;> rfl
  | readRate now => rfl
  | registerProviders p =>
    simp only [step, registerProviders]
    split
    · rfl
    · cases c.providers.register p <;> rfl
  | close => simp only [step, close, windowEvent?]; split <;> rfl
  | _ => exact (plain trivial).elim

theorem windowEvent?_recorded (e : ClientEvent App) :
    (c.windowEvent? e).bind WindowEvent.recorded? = c.attempt? e := by
  cases e with
  | close => simp only [windowEvent?, attempt?]; split <;> rfl
  | call request m => simp only [windowEvent?, attempt?]; split <;> rfl
  | _ => rfl

theorem windowEvent?_reset {e : ClientEvent App} (does : c.windowEvent? e = some .reset) : e = .close := by
  cases e with
  | close => rfl
  | call request m =>
    simp only [windowEvent?, attempt?] at does
    split at does <;> cases does
  | _ => cases does

theorem windowEvent?_time {e : ClientEvent App} {event : WindowEvent} (does : c.windowEvent? e = some event)
    {u : Instant} (at_ : u ∈ event.time?) : u ∈ e.now? := by
  cases e with
  | close =>
    simp only [windowEvent?] at does
    split at does
    · cases does
    · cases does
      cases at_
  | call request m =>
    simp only [windowEvent?, attempt?] at does
    split at does
    · cases does
      exact at_
    · cases does
  | readRate now =>
    cases does
    exact at_
  | _ => cases does

theorem currentRate_internal {r : ProviderRegistry App} (internal : ∀ p ∈ r.installed, p.rate.isInternal = true)
    (app : App) (w : RateWindow) (now : Instant) : r.currentRate app w now = w.currentRate now := by
  unfold ProviderRegistry.currentRate
  split
  · next p installed =>
    have own := internal p installed
    unfold RegisteredProviders.currentRate RateSource.currentRate
    split
    · next external => rw [external] at own; cases own
    · rfl
  · rfl

end Client

namespace ClientHistory
open History RateWindow

variable {App : Type} {h : ClientHistory App}

/-- The clock does not go back. -/
def Forward (h : ClientHistory App) : Prop :=
  (h.events.filterMap ClientEvent.now?).Pairwise fun t u => t.nanos ≤ u.nanos

instance (h : ClientHistory App) : Decidable h.Forward :=
  inferInstanceAs (Decidable (List.Pairwise _ _))

/-- The attempts among the first `n` events, in the order in which they were made. -/
def attempts (h : ClientHistory App) (n : Nat) : List Instant :=
  (List.range n).filterMap fun j => h.events[j]?.bind (h.state j).attempt?

/-- The attempts among the first `n` events that lie within a window of `t`, per second of window. -/
def attemptRate (h : ClientHistory App) (n : Nat) (t : Instant) : Float :=
  Float.ofNat ((h.attempts n).countP (within h.config.rateWindow t)) / h.config.rateWindow.toFloat

theorem attempts_succ (h : ClientHistory App) (n : Nat) :
    h.attempts (n + 1) = h.attempts n ++ (h.events[n]?.bind (h.state n).attempt?).toList := by
  rw [attempts, List.range_succ, List.filterMap_append, attempts, List.filterMap_cons, List.filterMap_nil]
  cases h.events[n]?.bind (h.state n).attempt? <;> rfl

theorem Forward.latest (forward : h.Forward) {n : Nat} {e : ClientEvent App} (happened : h.events[n]? = some e)
    {t : Instant} (at_ : t ∈ e.now?) {j : Nat} (sooner : j ≤ n) {e' : ClientEvent App}
    (before : h.events[j]? = some e') {u : Instant} (read : u ∈ e'.now?) : u.nanos ≤ t.nanos := by
  obtain ⟨within_n, rfl⟩ := List.getElem?_eq_some_iff.mp happened
  obtain ⟨within_j, rfl⟩ := List.getElem?_eq_some_iff.mp before
  rcases Nat.lt_or_eq_of_le sooner with sooner | rfl
  · exact List.pairwise_iff_getElem.mp (List.pairwise_filterMap.mp forward) j n within_j within_n sooner u read t at_
  · cases Option.some.inj (at_.symm.trans read)
    exact Nat.le_refl _

/-! ### The window along a history -/

/-- What holds of the window of a new client, and after whatever is done with one, always holds. -/
theorem window_kept {P : RateWindow → Prop} (h : ClientHistory App) (first : P ⟨h.config.rateWindow, []⟩)
    (event : ∀ w e, P w → P (RateWindow.step w e)) (n : Nat) : P (h.state n).window := by
  refine h.invariant (P := fun c : Client App => P c.window) ?_ (fun k e _ before => ?_) n
  · rw [Client.build_ok h.built]
    exact first
  · rw [Client.step_window]
    cases (h.state k).windowEvent? e with
    | none => exact before
    | some event' => exact event _ event' before

theorem window_ordered (h : ClientHistory App) (n : Nat) : Ordered (h.state n).window.events :=
  h.window_kept (P := fun w => Ordered w.events) List.Pairwise.nil (fun _ e ordered => step_ordered ordered e) n

theorem window_length (h : ClientHistory App) (n : Nat) : (h.state n).window.length = h.config.rateWindow :=
  h.window_kept (P := fun w => w.length = h.config.rateWindow) rfl
    (fun w e same => (step_length w e).trans same) n

theorem opened_before {n : Nat} {e : ClientEvent App} (happened : h.events[n]? = some e)
    (opened : (h.state (n + 1)).closed = false) : (h.state n).closed = false := by
  cases state : (h.state n).closed with
  | false => rfl
  | true =>
    have shut := (h.shut n state).step e
    rw [← state_succ happened] at shut
    cases opened.symm.trans shut.closed

theorem countP_attempts (h : ClientHistory App) {n : Nat} (opened : (h.state n).closed = false) {t : Instant}
    (latest : ∀ j < n, ∀ e, h.events[j]? = some e → ∀ u ∈ e.now?, u.nanos ≤ t.nanos) :
    (h.state n).window.events.countP (within h.config.rateWindow t) =
      (h.attempts n).countP (within h.config.rateWindow t) := by
  -- No event up to `n` comes after `t`, so none of them drops an attempt that lies within a window of `t`.
  induction n with
  | zero =>
    rw [state_zero, Client.build_ok h.built]
    rfl
  | succ n ih =>
    have earlier := fun j sooner => latest j (Nat.lt_succ_of_lt sooner)
    rw [attempts_succ, List.countP_append]
    cases happened : h.events[n]? with
    | none =>
      rw [state_succ_of_none happened] at opened ⊢
      exact ih opened earlier
    | some e =>
      have before := opened_before happened opened
      rw [state_succ happened, Option.bind_some, ← Client.windowEvent?_recorded, Client.step_window,
        ← ih before earlier, ← h.window_length n]
      cases does : (h.state n).windowEvent? e with
      | none => rfl
      | some event =>
        refine countP_within (h.window_ordered n) ?_ ?_
        · rintro rfl
          have closing := Client.windowEvent?_reset does
          cases opened.symm.trans (close_closes (closing ▸ happened))
        · intro u at_
          exact latest n (Nat.lt_succ_self n) e happened u (Client.windowEvent?_time does at_)

/-! ### The rate that a call is held against -/

/-- A call that is held against the rate needs a snapshot for that, with the rate of the attempts so far. -/
theorem need?_rate (forward : h.Forward) {n : Nat} {i : CallId} {key : CheckKey} {m : Moment App}
    (called : h.Calls n i (.checkRate key) m) (opened : (h.state n).closed = false)
    (internal : ∀ p ∈ (h.state n).providers.installed, p.rate.isInternal = true) :
    (h.state n).need? (.checkRate key) m = some (key, .rate (h.attemptRate (n + 1) m.now)) := by
  have recorded : (h.state (n + 1)).window = (h.state n).window.recordEvent m.now := by
    rw [state_succ called.1, Client.step_window]
    simp only [Client.windowEvent?, Client.attempt?, opened, CallRequest.isAttempt]
    rfl
  have still : (h.state (n + 1)).closed = false := by
    cases state : (h.state (n + 1)).closed with
    | false => rfl
    | true => cases (learns called.1).closes opened state
  have rate : ((h.state (n + 1)).window.currentRate m.now).1 = h.attemptRate (n + 1) m.now := by
    rw [currentRate_within (h.window_ordered _), h.window_length, h.countP_attempts still]
    · rfl
    · intro j sooner e happened u read
      exact forward.latest called.1 rfl (Nat.le_of_lt_succ sooner) happened read
  simp only [Client.need?, opened, Bool.false_eq_true, ↓reduceIte, Client.recordAttempt]
  rw [← rate, recorded, Client.currentRate_internal internal]

/-- Each attempt at an admission is recorded once, when the call comes, and nothing else is. The rate that the call is
held against is read at that same moment. -/
theorem attempts_counted (h : ClientHistory App) :
    (∀ n e, h.events[n]? = some e →
      (h.state (n + 1)).window = ((h.state n).windowEvent? e).elim (h.state n).window (h.state n).window.step ∧
      ((h.state n).windowEvent? e).bind WindowEvent.recorded? = (h.state n).attempt? e) ∧
    (∀ n t, (h.state n).closed = false →
      (∀ j < n, ∀ e, h.events[j]? = some e → ∀ u ∈ e.now?, u.nanos ≤ t.nanos) →
      (h.state n).window.events.countP (within h.config.rateWindow t) =
        (h.attempts n).countP (within h.config.rateWindow t)) ∧
    (h.Forward → ∀ n i key m, h.Calls n i (.checkRate key) m → (h.state n).closed = false →
      (∀ p ∈ (h.state n).providers.installed, p.rate.isInternal = true) →
      (h.state n).need? (.checkRate key) m = some (key, .rate (h.attemptRate (n + 1) m.now)) ∧
      ∀ k m' s, h.Hears k i m' (.ok s) →
        (h.state (k + 1)).phase? i =
          some (.finished (.ok (.rated (s.checkRate (h.attemptRate (n + 1) m.now)))))) := by
  refine ⟨?_, fun n t opened latest => h.countP_attempts opened latest, ?_⟩
  · intro n e happened
    refine ⟨?_, Client.windowEvent?_recorded e⟩
    rw [state_succ happened, Client.step_window]
  · intro forward n i key m called opened internal
    have need := need?_rate forward called opened internal
    refine ⟨need, ?_⟩
    rintro k m' s ⟨e, key', purpose, happened, hears⟩
    -- What it hears it hears for what it came for.
    obtain ⟨l, _, request, m'', called', need'⟩ := hearing_called happened hears
    obtain ⟨rfl, rfl⟩ := called.unique called'
    cases called.1.symm.trans called'.1
    cases need.symm.trans need'
    obtain ⟨_, window, _, phase⟩ := Client.step_hears hears
    rw [state_succ happened, phase]
    rfl

/-- At second 1 the rate counts a cancelled consumption that is a window old, a call that still waits, and itself; no
check, and nothing that comes later. -/
def cancelledCounts : ClientHistory Unit :=
  ofEvents [.call (.consume .product 3) (atSecond 0), .call (.check .product) (atSecond 1), .cancel 0,
    .call (.acquire (.feature "export")) (atSecond 1), .call (.checkCapacityCounted .product) (atSecond 1),
    .call (.checkRate .product) (atSecond 1), .call (.checkCapacity .product 5) (atSecond 1), .ask 0,
    .queryReply 0 (.ok ⟨tenUnits, none⟩) (atSecond 4).now, .resume 4 (atSecond 5)]

theorem cancelledCounts_rated :
    cancelledCounts.Forward ∧ cancelledCounts.Calls 5 4 (.checkRate .product) (atSecond 1) ∧
    (cancelledCounts.state 5).closed = false ∧
    (∀ p ∈ (cancelledCounts.state 5).providers.installed, p.rate.isInternal = true) ∧
    cancelledCounts.Hears 9 4 (atSecond 5) (.ok tenUnits) ∧
    (cancelledCounts.state 7).window.events.countP (within cancelledCounts.config.rateWindow (atSecond 1).now) = 4 ∧
    (cancelledCounts.state 10).phase? 4 =
      some (.finished (.ok (.rated (tenUnits.checkRate
        (Float.ofNat 3 / cancelledCounts.config.rateWindow.toFloat))))) := by
  have forward : cancelledCounts.Forward := by decide
  have called : cancelledCounts.Calls 5 4 (.checkRate .product) (atSecond 1) := ⟨rfl, rfl⟩
  have internal : ∀ p ∈ (cancelledCounts.state 5).providers.installed, p.rate.isInternal = true := nofun
  have hears : cancelledCounts.Hears 9 4 (atSecond 5) (.ok tenUnits) := ⟨_, _, _, rfl, rfl⟩
  obtain ⟨_, holds, rated⟩ := attempts_counted cancelledCounts
  have four := holds 7 (atSecond 1).now rfl (by decide)
  have three := (rated forward 5 4 .product (atSecond 1) called rfl internal).2 9 (atSecond 5) tenUnits hears
  exact ⟨forward, called, rfl, internal, hears, four, three⟩

end ClientHistory

end Entitlement
