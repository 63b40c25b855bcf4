import Entitlement.Proofs.Client.Provenance

/-!
What calls decide on. A call gets a snapshot at once, from the cache, or later, from the query that it has
waited for; either way the snapshot is an answer of the authority for the call's own key
(`decision_provenance`). `Story` says of every call how it has got where it is, and every decision
that is handed out goes back to a snapshot that the call has got.
-/

namespace Entitlement

/-- What a call may make of a snapshot. -/
inductive Decides : Purpose → Snapshot → CallValue → Prop
  | shown (s : Snapshot) : Decides .show s (.snapshot s)
  | consumed (s : Snapshot) (amount : UInt64) : Decides (.consume amount) s (.consumed (s.consume amount))
  | rated (s : Snapshot) (current : Float) : Decides (.rate current) s (.rated (s.checkRate current))
  | measured (s : Snapshot) (used : UInt64) : Decides (.capacity used) s (.measured (s.checkCapacity used))
  | slot (s : Snapshot) (l : Ledger) (k : SlotKey) : Decides .slot s (.slot (s.acquireSlot l k).1)

namespace Client

variable {App : Type}

/-- The snapshot of a caller who need not wait for one. -/
def atHand? (c : Client App) (key : CheckKey) (now : Instant) : Option Snapshot :=
  match c.lookup key now with
  | (.fresh s, _) => some s
  | (.pending q, after) => ((after.queryStatus? q).bind QueryStatus.result?).bind Except.toOption

/-- Only fresh snapshots are at hand: a query in flight has not ended, or it broke down. -/
theorem atHand?_eq {c : Client App} (sound : c.knowledge.Sound) (key : CheckKey) (now : Instant) :
    c.atHand? key now = c.cache.get? key now := by
  unfold atHand? lookup
  cases fresh : c.cache.get? key now with
  | some s => rfl
  | none =>
    cases flying : c.inFlight.find? key with
    | none => simp [queryStatus?, QueryStatus.result?]
    | some q =>
      obtain ⟨status, found, fits⟩ := sound.flown key q flying
      have present : c.queryStatus? q = some status := by
        simp only [queryStatus?]
        rw [show c.queries.find? q = some ⟨key, status⟩ from found]
        rfl
      simp only [present, Option.bind_some]
      rcases fits with running | ⟨message, rfl⟩
      · rw [QueryStatus.isFinished, Option.isSome_eq_false_iff, Option.isNone_iff_eq_none] at running
        rw [running]
        rfl
      · rfl

end Client

namespace ClientHistory
open History

variable {App : Type} {h : ClientHistory App}

/-- In the `n`th event the call `i` gets a snapshot of `key`. -/
inductive Obtains (h : ClientHistory App) (n : Nat) (i : CallId) (key : CheckKey) (purpose : Purpose)
    (s : Snapshot) : Prop
  | atOnce {request : CallRequest} {m : Moment App} (happened : h.events[n]? = some (.call request m))
      (number : i = (h.state n).nextCall) (need : (h.state n).need? request m = some (key, purpose))
      (present : (h.state n).atHand? key m.now = some s)
  | later {q : QueryId} {m : Moment App} (happened : h.events[n]? = some (.resume i m))
      (waited : (h.state n).phase? i = some (.waiting q key purpose))
      (ended : ((h.state n).queryStatus? q).bind QueryStatus.result? = some (.ok s))

/-- The snapshot is the answer to a query that had not ended when the call looked for a snapshot: the call
began the query, or joined it. -/
inductive FromQuery (h : ClientHistory App) (n : Nat) (i : CallId) (key : CheckKey) (purpose : Purpose)
    (s : Snapshot) : Prop
  | intro {l a m : Nat} {q : QueryId} {status : QueryStatus} {grant : Grant} {now : Instant}
      (looked : h.Misses l key purpose) (number : i = (h.state l).nextCall)
      (waits : (h.state (l + 1)).phase? i = some (.waiting q key purpose))
      (found : (h.state (l + 1)).queries.find? q = some ⟨key, status⟩) (running : status.isFinished = false)
      (asked : h.Asks a q key) (answered : h.Answers m q key grant now) (same : grant.snapshot = s)
      (order : l < m ∧ a < m ∧ m < n)

/-- The snapshot is the latest answer for the key, which has not been forgotten since, and is still fresh
when the call looks for it. -/
inductive FromCache (h : ClientHistory App) (n : Nat) (i : CallId) (key : CheckKey) (s : Snapshot) : Prop
  | intro {request : CallRequest} {moment : Moment App} {a m : Nat} {q : QueryId} {grant : Grant}
      {stored : Instant} (looked : h.events[n]? = some (.call request moment))
      (number : i = (h.state n).nextCall) (asked : h.Asks a q key)
      (answered : h.Answers m q key grant stored) (same : grant.snapshot = s) (order : a < m ∧ m < n)
      (latest : ∀ j, m < j → j < n → ∀ q' grant' now', ¬ h.Answers j q' key grant' now')
      (kept : ∀ j, m < j → j < n → ¬ h.Forgets j key)
      (fresh : moment.now.nanos < stored.nanos + (h.lifetime grant).nanos ∨
        Instant.clockEnd ≤ stored.nanos + (h.lifetime grant).nanos)

theorem fromCache (h : ClientHistory App) {n : Nat} {request : CallRequest} {m : Moment App} {key : CheckKey}
    {s : Snapshot} (happened : h.events[n]? = some (.call request m))
    (fresh : (h.state n).cache.get? key m.now = some s) :
    h.FromCache n (h.state n).nextCall key s := by
  obtain ⟨entry, found, young, same⟩ := Cache.get?_some.mp fresh
  obtain ⟨k, sooner, q, grant, stored, answered, rfl, since⟩ := h.stored n found
  obtain ⟨a, earlier, asked⟩ := h.asked_before k answered.2
  exact .intro happened rfl asked answered same ⟨earlier, sooner⟩
    (fun j after before => (since j after before).2) (fun j after before => (since j after before).1)
    (CacheEntry.isFresh_storedAt.mp young)

/-! ### How calls get where they are -/

/-- The call `i` has decided on a snapshot that it has got for its own key. -/
def Decided (h : ClientHistory App) (n : Nat) (i : CallId) (request : CallRequest) (v : CallValue) : Prop :=
  ∃ m < n, ∃ key purpose s, request.key? = some key ∧ h.Obtains m i key purpose s ∧ Decides purpose s v

/-- The call `i` looked for a snapshot, found none, and waits for a query that had not ended then. -/
def Awaits (h : ClientHistory App) (n : Nat) (i : CallId) (request : CallRequest) (q : QueryId)
    (key : CheckKey) (purpose : Purpose) : Prop :=
  request.key? = some key ∧ ∃ l < n, h.Misses l key purpose ∧ i = (h.state l).nextCall ∧
    (h.state (l + 1)).phase? i = some (.waiting q key purpose) ∧
    ∃ status, (h.state (l + 1)).queries.find? q = some ⟨key, status⟩ ∧ status.isFinished = false

/-- How the call `i` has got where it is after `n` events. -/
inductive Story (h : ClientHistory App) (n : Nat) (i : CallId) (request : CallRequest) : Phase → Prop
  | waiting {q : QueryId} {key : CheckKey} {purpose : Purpose} (awaits : h.Awaits n i request q key purpose) :
      h.Story n i request (.waiting q key purpose)
  | reporting {outcome : ConsumeOutcome} (decided : h.Decided n i request (.consumed outcome)) :
      h.Story n i request (.reporting (some outcome))
  | decided {v : CallValue} (decided : h.Decided n i request v) : h.Story n i request (.finished (.ok v))
  | done : h.Story n i request (.finished (.ok .done))
  | failed (e : ClientError) : h.Story n i request (.finished (.error e))
  | idle {phase : Phase} (idle : Client.Idle phase) : h.Story n i request phase

theorem Decided.later {m n : Nat} {i : CallId} {request : CallRequest} {v : CallValue}
    (decided : h.Decided m i request v) (later : m ≤ n) : h.Decided n i request v := by
  obtain ⟨k, sooner, rest⟩ := decided
  exact ⟨k, Nat.lt_of_lt_of_le sooner later, rest⟩

theorem Story.later {m n : Nat} {i : CallId} {request : CallRequest} {phase : Phase}
    (story : h.Story m i request phase) (later : m ≤ n) : h.Story n i request phase := by
  cases story with
  | waiting awaits =>
    obtain ⟨own, l, sooner, rest⟩ := awaits
    exact .waiting ⟨own, l, Nat.lt_of_lt_of_le sooner later, rest⟩
  | reporting decided => exact .reporting (decided.later later)
  | decided decided => exact .decided (decided.later later)
  | done => exact .done
  | failed e => exact .failed e
  | idle idle => exact .idle idle

theorem Obtains.story {n : Nat} {i : CallId} {request : CallRequest} {key : CheckKey} {purpose : Purpose}
    {s : Snapshot} {phase : Phase} (obtains : h.Obtains n i key purpose s) (own : request.key? = some key)
    (settled : Settled purpose (.ok s) phase) : h.Story (n + 1) i request phase := by
  have decided {v : CallValue} (decides : Decides purpose s v) : h.Decided (n + 1) i request v :=
    ⟨n, Nat.lt_succ_self n, key, purpose, s, own, obtains, decides⟩
  cases settled with
  | shown => exact .decided (decided (.shown s))
  | denied amount => exact .decided (decided (.consumed s amount))
  | reporting amount => exact .reporting (decided (.consumed s amount))
  | unreported amount e => exact .failed _
  | rated _ current => exact .decided (decided (.rated s current))
  | measured _ used => exact .decided (decided (.measured s used))
  | slot _ l k => exact .decided (decided (.slot s l k))

theorem came_story {n : Nat} {request : CallRequest} {m : Moment App} {phase : Phase} {after : Client App}
    (happened : h.events[n]? = some (.call request m))
    (entered : Client.Entered (h.state n) request m phase after)
    (queries : (h.state (n + 1)).queries = after.queries)
    (phase_eq : (h.state (n + 1)).phase? (h.state n).nextCall = some phase) :
    h.Story (n + 1) (h.state n).nextCall request phase := by
  have awaits {q : QueryId} {key : CheckKey} {purpose : Purpose} {status : QueryStatus}
      (need : (h.state n).need? request m = some (key, purpose))
      (stale : (h.state n).cache.get? key m.now = none) (waits : phase = .waiting q key purpose)
      (found : after.queries.find? q = some ⟨key, status⟩) (running : status.isFinished = false) :
      h.Awaits (n + 1) (h.state n).nextCall request q key purpose :=
    ⟨Client.need?_key need, n, Nat.lt_succ_self n, ⟨request, m, happened, need, stale⟩, rfl,
      waits ▸ phase_eq, status, queries ▸ found, running⟩
  cases entered with
  | idle sent noNeed idle => exact .idle idle
  | @hit key purpose s window need fresh =>
    have present := ((h.state n).atHand?_eq (h.sound n) key m.now).trans fresh
    exact (Obtains.atOnce happened rfl need present).story (Client.need?_key need)
      (Client.proceed_settled ..)
  | @told key purpose q result window need stale flying ended =>
    have settled := Client.proceed_settled { h.state n with window } key purpose result m
    cases result with
    | ok s =>
      have present : (h.state n).atHand? key m.now = some s := by
        simp only [Client.atHand?, Client.lookup, stale, flying, ended]
        rfl
      exact (Obtains.atOnce happened rfl need present).story (Client.need?_key need) settled
    | error e => cases settled with
      | failed => exact .failed e
  | @joined key purpose q window need stale flying pending =>
    obtain ⟨status, found, _⟩ := (h.sound n).flown key q flying
    have present : (h.state n).queryStatus? q = some status := congrArg (Option.map Query.status) found
    rw [present, Option.bind_some] at pending
    exact .waiting (awaits need stale rfl found (by rw [QueryStatus.isFinished, pending]; rfl))
  | begun window need stale free =>
    exact .waiting (awaits need stale rfl (Table.find?_insert_self ..) rfl)

theorem story (h : ClientHistory App) (n : Nat) {i : CallId} {request : CallRequest} {phase : Phase}
    (found : (h.state n).calls.find? i = some ⟨request, phase⟩) : h.Story n i request phase := by
  induction n generalizing phase with
  | zero =>
    rw [state_zero, h.start_blank.2.1] at found
    cases found
  | succ n ih =>
    rcases h.next n with ⟨e, happened, moved⟩ | ⟨_, same⟩
    · have goes := Client.step_goes (moved ▸ found)
      generalize call_eq : (⟨request, phase⟩ : Call) = call at goes
      cases goes with
      | stays before =>
        subst call_eq
        exact (ih before).later (Nat.le_succ n)
      | @comes request' m phase' after new entered same =>
        cases call_eq
        subst new
        have queries : (h.state (n + 1)).queries = after.queries := by
          rw [moved, Client.step, same]
        exact came_story happened entered queries (congrArg (Option.map Call.phase) found)
      -- The call has waited since it came, so its story names the query that it now goes on with.
      | @resumes request' q key purpose result m waited ended =>
        cases call_eq
        have settled := (h.state n).proceed_settled key purpose result m
        cases ih waited with
        | idle idle => cases idle
        | waiting awaits =>
          cases result with
          | ok s =>
            have waits : (h.state n).phase? i = some (.waiting q key purpose) :=
              congrArg (Option.map Call.phase) waited
            exact (Obtains.later happened waits ended).story awaits.1 settled
          | error e =>
            generalize ((h.state n).proceed key purpose (.error e) m).1 = phase at settled
            cases settled with
            | failed => exact .failed e
      | @reported request' outcome reply before =>
        cases call_eq
        cases outcome with
        | none => cases reply with
          | ok => exact .done
          | error e => exact .failed e
        | some outcome => cases reply with
          | error e => exact .failed _
          | ok => cases ih before with
            | idle idle => cases idle
            | reporting decided => exact .decided (decided.later (Nat.le_succ n))
      | registered reply now before =>
        cases call_eq
        cases reply with
        | ok => exact .done
        | error e => exact .failed e
    · exact (ih (same ▸ found)).later (Nat.le_succ n)

/-- Who has waited for a query that is answered by now waited for it before the answer came. -/
theorem Awaits.fromQuery {n : Nat} {i : CallId} {request : CallRequest} {q : QueryId} {key : CheckKey}
    {purpose : Purpose} {s : Snapshot} (awaits : h.Awaits n i request q key purpose)
    (ended : ((h.state n).queryStatus? q).bind QueryStatus.result? = some (.ok s)) :
    h.FromQuery n i key purpose s := by
  obtain ⟨_, l, sooner, looked, number, waits, status, found, running⟩ := awaits
  obtain ⟨status', present, _⟩ := key_kept (Nat.succ_le_of_lt sooner) found
  rw [Client.queryStatus?, present, Option.map_some, Option.bind_some] at ended
  cases QueryStatus.result?_ok ended
  obtain ⟨m, after, before, grant, now, answered, same⟩ :=
    answered_between (Nat.succ_le_of_lt sooner) found running present
  obtain ⟨a, earlier, asked⟩ := h.asked_before m answered.2
  exact .intro looked number waits found running asked answered same ⟨after, earlier, before⟩

theorem Obtains.source {n : Nat} {i : CallId} {key : CheckKey} {purpose : Purpose} {s : Snapshot}
    (obtains : h.Obtains n i key purpose s) : h.FromQuery n i key purpose s ∨ h.FromCache n i key s := by
  cases obtains with
  | atOnce happened number _ present =>
    subst number
    rw [Client.atHand?_eq (h.sound n)] at present
    exact Or.inr (h.fromCache happened present)
  | later _ waited ended =>
    refine Or.inl ?_
    obtain ⟨request, found⟩ := Client.phase?_some waited
    cases h.story n found with
    | idle idle => cases idle
    | waiting awaits => exact awaits.fromQuery ended

/-- What a call decides on is an answer for its own key: that to the query it has waited for, or the latest one, still
fresh in the cache. -/
theorem decision_provenance (h : ClientHistory App) :
    (∀ n i key purpose s, h.Obtains n i key purpose s →
      (∃ phase, (h.state (n + 1)).phase? i = some phase ∧ Settled purpose (.ok s) phase) ∧
      (h.FromQuery n i key purpose s ∨ h.FromCache n i key s)) ∧
    (∀ n i request v, (h.state n).calls.find? i = some ⟨request, .finished (.ok v)⟩ → v ≠ .done →
      h.Decided n i request v) := by
  refine ⟨?_, ?_⟩
  · intro n i key purpose s obtains
    refine ⟨?_, obtains.source⟩
    cases obtains with
    | @atOnce request m happened number need present =>
      subst number
      rw [Client.atHand?_eq (h.sound n)] at present
      rw [state_succ happened]
      exact Client.start_hit need present
    | @later q m happened waited ended =>
      rw [state_succ happened]
      exact ⟨_, Client.phase?_resume waited ended, Client.proceed_settled ..⟩
  · intro n i request v found decided
    cases h.story n found with
    | decided has => exact has
    | done => exact (decided rfl).elim
    | idle idle => cases idle

end ClientHistory

end Entitlement
