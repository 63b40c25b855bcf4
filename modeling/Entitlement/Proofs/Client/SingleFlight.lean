import Entitlement.Proofs.Client.Flight

/-!
Single flight. Of all queries for one key at most one has not ended, however calls, replies, cancellations
and invalidations come; only a call that finds neither a fresh snapshot nor a flight to join begins a query,
and every query goes to the authority once at most (`single_flight`).
-/

namespace Entitlement

theorem Settled.not_waiting {purpose purpose' : Purpose} {result : Except ClientError Snapshot}
    {phase : Phase} (settled : Settled purpose result phase) (q : QueryId) (key : CheckKey) :
    phase ≠ .waiting q key purpose' := by
  cases settled <;> exact nofun

namespace Client

variable {App : Type} {c : Client App}

theorem proceed_not_waiting (c : Client App) (key : CheckKey) (purpose : Purpose) (result : Except ClientError Snapshot)
    (m : Moment App) (q : QueryId) (key' : CheckKey) (purpose' : Purpose) :
    (c.proceed key purpose result m).1 ≠ .waiting q key' purpose' :=
  (c.proceed_settled key purpose result m).not_waiting q key'

theorem phase?_start {c after : Client App} {request : CallRequest} {m : Moment App} {phase : Phase}
    (same : c.start request m =
      { after with
        calls := after.calls.insert c.nextCall ⟨request, phase⟩
        nextCall := c.nextCall + 1 }) :
    (c.start request m).phase? c.nextCall = some phase := by
  rw [same]
  simp [phase?]

/-- Who finds a fresh snapshot goes on with it at once. -/
theorem start_hit {request : CallRequest} {m : Moment App} {key : CheckKey} {purpose : Purpose}
    {s : Snapshot} (need : c.need? request m = some (key, purpose))
    (fresh : c.cache.get? key m.now = some s) :
    ∃ phase, (c.start request m).phase? c.nextCall = some phase ∧ Settled purpose (.ok s) phase := by
  obtain ⟨phase, after, entered, same⟩ := c.start_entered request m
  rw [phase?_start same]
  cases entered with
  | idle _ noNeed => cases noNeed.symm.trans need
  | hit window need' fresh' =>
    cases need'.symm.trans need
    cases fresh'.symm.trans fresh
    exact ⟨_, rfl, proceed_settled ..⟩
  | told _ need' stale | joined _ need' stale | begun _ need' stale =>
    cases need'.symm.trans need
    cases stale.symm.trans fresh

theorem Learns.of_fresh {request : CallRequest} {m : Moment App} {k : Knowledge} {key : CheckKey}
    {purpose : Purpose} {s : Snapshot} (learns : Learns c (.call request m) k)
    (need : c.need? request m = some (key, purpose)) (fresh : c.cache.get? key m.now = some s) :
    k = c.knowledge := by
  cases learns with
  | unmoved => rfl
  | begun need' stale =>
    cases need'.symm.trans need
    cases stale.symm.trans fresh

theorem Learns.asks {e : ClientEvent App} {k : Knowledge} (learns : Learns c e k) :
    k.asks = c.asks ∨
      ∃ q key, e = .ask q ∧ c.queries.find? q = some ⟨key, .queued⟩ ∧ k.asks = c.asks ++ [key] := by
  cases learns with
  | asked queued => exact Or.inr ⟨_, _, rfl, queued, rfl⟩
  | _ => exact Or.inl rfl

theorem Learns.asked_once {q : QueryId} {key : CheckKey} {k : Knowledge} (learns : Learns c (.ask q) k)
    (queued : c.queries.find? q = some ⟨key, .queued⟩) : k.queries.find? q = some ⟨key, .asked⟩ := by
  cases learns with
  | asked queued' =>
    cases Option.some.inj (queued.symm.trans queued')
    exact Table.find?_insert_self ..
  | unmoved why =>
    cases why with
    | aside aside => exact aside.elim
    | ask unfit => exact (unfit key queued).elim

end Client

namespace ClientHistory
open History

variable {App : Type} {h : ClientHistory App}

/-- The `n`th event is a call that needs a snapshot of `key` and finds no fresh one. -/
def Misses (h : ClientHistory App) (n : Nat) (key : CheckKey) (purpose : Purpose) : Prop :=
  ∃ request m, h.events[n]? = some (.call request m) ∧
    (h.state n).need? request m = some (key, purpose) ∧ (h.state n).cache.get? key m.now = none

/-- The `n`th event is a call that needs a snapshot of `key`, finds neither a fresh one nor a query in
flight, and begins the query `q`. -/
def Begins (h : ClientHistory App) (n : Nat) (q : QueryId) (key : CheckKey) : Prop :=
  ∃ request m purpose, h.events[n]? = some (.call request m) ∧
    (h.state n).need? request m = some (key, purpose) ∧
    (h.state n).cache.get? key m.now = none ∧
    (h.state n).inFlight.find? key = none ∧
    (h.state n).queries.find? q = none ∧
    (h.state (n + 1)).queries.find? q = some ⟨key, .queued⟩

/-- In the `n`th event the authority is asked about `key`, for the query `q`. -/
def Asks (h : ClientHistory App) (n : Nat) (q : QueryId) (key : CheckKey) : Prop :=
  h.events[n]? = some (.ask q) ∧ (h.state n).queries.find? q = some ⟨key, .queued⟩

theorem begun (h : ClientHistory App) (n : Nat) {q : QueryId} {key : CheckKey} {status : QueryStatus}
    (found : (h.state n).queries.find? q = some ⟨key, status⟩) : ∃ m < n, h.Begins m q key := by
  refine came_about (P := fun c : Client App => ∃ status, c.queries.find? q = some ⟨key, status⟩) ?_
    ⟨status, found⟩ ?_
  · rintro ⟨_, present⟩
    rw [h.start_blank.1] at present
    cases present
  · rintro k e happened ⟨status, present⟩
    rcases (learns happened).turns present with before | turn
    · exact Or.inl ⟨status, before⟩
    · cases turn with
      | begun need stale free new =>
        exact Or.inr ⟨_, _, _, happened, need, stale, free, new ▸ (h.sound k).fresh, present⟩
      | asked before | answered _ _ before | panicked _ before | aborted _ before =>
        exact Or.inl ⟨_, before⟩

theorem asks_step (h : ClientHistory App) (n : Nat) :
    (h.state (n + 1)).asks = (h.state n).asks ∨
      ∃ q key, h.Asks n q key ∧ (h.state (n + 1)).asks = (h.state n).asks ++ [key] := by
  rcases h.next n with ⟨e, happened, _⟩ | ⟨_, same⟩
  · refine (learns happened).asks.imp_right ?_
    rintro ⟨q, key, rfl, queued, more⟩
    exact ⟨q, key, ⟨happened, queued⟩, more⟩
  · exact Or.inl (congrArg Client.asks same)

theorem asks_once {m n : Nat} (later : m < n) {q : QueryId} {key key' : CheckKey} (first : h.Asks m q key) :
    ¬ h.Asks n q key' := by
  rintro ⟨_, again⟩
  obtain ⟨happened, queued⟩ := first
  have asked : (h.state (m + 1)).queries.find? q = some ⟨key, .asked⟩ := (learns happened).asked_once queued
  obtain ⟨status, present, backward⟩ := key_kept later asked
  cases Option.some.inj (present.symm.trans again)
  cases backward rfl

/-- At most one query for a key has not ended, and each was begun by a call that found neither a fresh snapshot nor a
query in flight. -/
theorem single_flight (h : ClientHistory App) :
    (∀ n q q' key status status',
      (h.state n).queries.find? q = some ⟨key, status⟩ → status.isFinished = false →
      (h.state n).queries.find? q' = some ⟨key, status'⟩ → status'.isFinished = false → q = q') ∧
    (∀ n q key status, (h.state n).queries.find? q = some ⟨key, status⟩ → ∃ m < n, h.Begins m q key) ∧
    (∀ n, (h.state (n + 1)).asks = (h.state n).asks ∨ ∃ q key, h.Asks n q key ∧
      (∀ m < n, ¬ h.Asks m q key) ∧ (h.state (n + 1)).asks = (h.state n).asks ++ [key]) ∧
    (∀ n request m key purpose s, h.events[n]? = some (.call request m) →
      (h.state n).need? request m = some (key, purpose) → (h.state n).cache.get? key m.now = some s →
      (h.state (n + 1)).queries = (h.state n).queries ∧
      (h.state (n + 1)).inFlight = (h.state n).inFlight ∧
      (h.state (n + 1)).asks = (h.state n).asks ∧
      ∀ q key' purpose', (h.state (n + 1)).phase? (h.state n).nextCall ≠ some (.waiting q key' purpose')) := by
  refine ⟨?_, ?_, ?_, ?_⟩
  · intro n q q' key status status' found running found' running'
    -- Both are in flight for the key, and only one query can be.
    have first := (h.sound n).pending q key status found running
    have second := (h.sound n).pending q' key status' found' running'
    exact Option.some.inj (first.symm.trans second)
  · intro n q key status found
    exact h.begun n found
  · intro n
    rcases h.asks_step n with same | ⟨q, key, asks, more⟩
    · exact Or.inl same
    · exact Or.inr ⟨q, key, asks, fun m sooner before => asks_once sooner before asks, more⟩
  · intro n request m key purpose s happened need fresh
    have known := (learns happened).of_fresh need fresh
    refine ⟨congrArg Knowledge.queries known, congrArg Knowledge.inFlight known,
      congrArg Knowledge.asks known, ?_⟩
    intro q key' purpose' waits
    obtain ⟨phase, goes_on, settled⟩ := Client.start_hit need fresh
    rw [state_succ happened] at waits
    exact settled.not_waiting q key' (Option.some.inj (goes_on.symm.trans waits))

end ClientHistory

end Entitlement
