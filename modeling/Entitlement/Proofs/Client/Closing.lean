import Entitlement.Proofs.Client.Waiting

/-!
Closing is final. A closed client holds nothing and has nothing under way (`Client.Shut`), and whatever happens to it
afterwards touches only its calls and the guards of its slots (`Shut.step_frame`): work that was begun before and comes
to its end now finds nothing to bring back. Calls that waited for the authority are turned away (`close_final`).
-/

namespace Entitlement

theorem Table.mapValues_self {κ α : Type} (t : Table κ α) : (t.mapValues fun _ a => a) = t := by
  obtain ⟨entries, nodup⟩ := t
  simp only [mapValues, List.map_id']

namespace Client

variable {App : Type} {c : Client App}

/-- A client that holds nothing any more and has nothing under way. -/
structure Shut (c : Client App) : Prop where
  closed : c.closed = true
  cache : c.cache.entries = .empty
  inFlight : c.inFlight = .empty
  window : c.window.events = []
  providers : c.providers = {}
  heartbeat : c.heartbeat = .off
  finished : ∀ q query, c.queries.find? q = some query → query.status.isFinished = true

theorem close_shut (opened : c.closed = false) (sound : c.knowledge.Sound) : c.close.Shut := by
  simp only [close, opened, Bool.false_eq_true, ↓reduceIte]
  exact ⟨rfl, rfl, rfl, rfl, rfl, rfl, fun _ _ found => abortQueries_finished sound found⟩

/-- Only closing closes. -/
theorem Learns.closes {e : ClientEvent App} {k : Knowledge} (learns : Learns c e k) (opened : c.closed = false)
    (closed : k.closed = true) : e = .close := by
  cases learns with
  | closed => rfl
  | _ => cases opened.symm.trans closed

theorem start_closed (closed : c.closed = true) (request : CallRequest) (m : Moment App) :
    c.start request m =
      { c with
        calls := c.calls.insert c.nextCall ⟨request, .finished (.error .closed)⟩
        nextCall := c.nextCall + 1 } := by
  simp only [start, closed, ↓reduceIte]

/-- What goes on after the client was closed sends nothing. -/
theorem proceed_closed (closed : c.closed = true) (key : CheckKey) (purpose : Purpose)
    (result : Except ClientError Snapshot) (m : Moment App) :
    ∃ ledger, (c.proceed key purpose result m).2 = { c with ledger } := by
  cases result with
  | error e => exact ⟨_, rfl⟩
  | ok s =>
    cases purpose with
    | consume amount =>
      have refused : c.sendReport key amount m = .error .closed := if_pos closed
      simp only [proceed, decide, refused]
      split <;> exact ⟨_, rfl⟩
    | _ => exact ⟨_, rfl⟩

theorem abortQueries_idle (idle : c.inFlight = .empty) : c.abortQueries = c := by
  unfold abortQueries
  simp only [idle, Table.find?_empty, reduceCtorEq, ↓reduceIte, Table.mapValues_self]
  rw [← idle]

namespace Shut

theorem invalidate (shut : c.Shut) (key : CheckKey) : (c.cache.invalidate key).2 = c.cache := by
  have nothing : c.cache.entries.erase key = c.cache.entries := by
    rw [shut.cache]
    rfl
  exact congrArg (fun entries => { c.cache with entries }) nothing

theorem prune (shut : c.Shut) (now : Instant) : c.window.prune now = c.window := by
  have nothing : c.window.events.dropWhile (c.window.expired now) = c.window.events := by
    rw [shut.window]
    rfl
  exact congrArg (fun events => { c.window with events }) nothing

theorem step_frame (shut : c.Shut) (e : ClientEvent App) :
    ∃ calls nextCall ledger, c.step e = { c with calls, nextCall, ledger } := by
  have still {t : Client App} (same : t = c) : ∃ calls nextCall ledger, t = { c with calls, nextCall, ledger } :=
    ⟨_, _, _, same⟩
  have silent (heartbeat : HeartbeatLoop) (off : heartbeat = .off) :
      ∃ calls nextCall ledger, { c with heartbeat } = { c with calls, nextCall, ledger } := by
    rw [off, ← shut.heartbeat]
    exact still rfl
  cases e with
  | call request m => exact ⟨_, _, _, start_closed shut.closed request m⟩
  | resume i m =>
    rcases c.resume_settled i m with same | ⟨q, key, purpose, result, _, _, same⟩
    · exact still same
    · obtain ⟨ledger, frame⟩ := proceed_closed shut.closed key purpose result m
      rw [step, same, frame]
      exact ⟨_, _, _, rfl⟩
  | take i => simp only [step, take]; split <;> exact ⟨_, _, _, rfl⟩
  | reportReply i reply => simp only [step, reportReplied]; split <;> exact ⟨_, _, _, rfl⟩
  | cancel | releaseSlot | dropSlot => exact ⟨_, _, _, rfl⟩
  -- No query waits for an answer.
  | ask q =>
    simp only [step, ask]
    split
    · next queued => cases shut.finished q _ queued
    · exact still rfl
  | queryReply q reply now =>
    simp only [step, queryReplied]
    split
    · next asked => cases shut.finished q _ asked
    · exact still rfl
  | queryPanic q message =>
    simp only [step, queryPanicked]
    split
    · next asked =>
      obtain ⟨query, found, asked⟩ := Option.map_eq_some_iff.mp asked
      have ended := shut.finished q query found
      rw [asked] at ended
      cases ended
    · exact still rfl
  | registerReply i reply now =>
    simp only [step, registerReplied, if_pos shut.closed]
    split
    · cases reply <;> exact ⟨_, _, _, rfl⟩
    · exact still rfl
  | registerProviders p => simp only [step, registerProviders, if_pos shut.closed]; exact still rfl
  | close => exact still (if_pos shut.closed)
  -- There is nothing to forget, to read or to abort.
  | invalidate key => exact still (congrArg (fun cache => { c with cache }) (shut.invalidate key))
  | clearCache => exact still (congrArg (fun entries => { c with cache := { c.cache with entries } }) shut.cache.symm)
  | readRate now => exact still (congrArg (fun window => { c with window }) (shut.prune now))
  | abandon =>
    simp only [step, abandon, abortQueries_idle shut.inFlight]
    exact silent _ rfl
  | heartbeatTick now =>
    have tick : c.heartbeat.tick c.config.heartbeatInterval now = (false, .off) := by
      rw [shut.heartbeat]
      rfl
    simp only [step, heartbeatTick, tick]
    exact silent _ rfl
  | heartbeatReply | heartbeatPanic =>
    refine silent _ ?_
    rw [shut.heartbeat]
    rfl

theorem step (shut : c.Shut) (e : ClientEvent App) : (c.step e).Shut := by
  obtain ⟨_, _, _, same⟩ := shut.step_frame e
  rw [same]
  exact ⟨shut.closed, shut.cache, shut.inFlight, shut.window, shut.providers, shut.heartbeat, shut.finished⟩

end Shut

end Client

namespace ClientHistory
open History

variable {App : Type} {h : ClientHistory App}

/-- What has become, after `k` events, of the call `i` that was still waiting when the client was closed in the
`n`th. -/
inductive TurnedAway (h : ClientHistory App) (n k : Nat) (i : CallId) : Prop
  | waits {q : QueryId} {key : CheckKey} {purpose : Purpose}
      (waiting : (h.state k).phase? i = some (.waiting q key purpose))
      (aborted : (h.state k).outcome? q = some (.error .closed))
      (ready : ∀ m, ((h.state k).resume i m).phase? i = some (.finished (.error .closed)))
  | told (finished : (h.state k).phase? i = some (.finished (.error .closed)))
  | taken {r : Nat} (after : n < r) (before : r < k) (happened : h.events[r]? = some (.take i))
      (had : (h.state r).phase? i = some (.finished (.error .closed)))
  | cancelled {r : Nat} (after : n < r) (before : r < k) (happened : h.events[r]? = some (.cancel i))

theorem shut (h : ClientHistory App) (n : Nat) (closed : (h.state n).closed = true) : (h.state n).Shut := by
  refine h.invariant (P := fun c : Client App => c.closed = true → c.Shut) ?_ ?_ n closed
  · rw [Client.build_ok h.built]
    exact nofun
  · intro k e _ before closes
    cases opened : (h.state k).closed with
    | true => exact (before opened).step e
    | false =>
      cases ((h.state k).step_learns e).closes opened closes
      exact Client.close_shut opened (h.sound k)

theorem close_closes {n : Nat} (closing : h.events[n]? = some .close) : (h.state (n + 1)).closed = true := by
  rw [state_succ closing]
  simp only [Client.step, Client.close]
  split
  · assumption
  · rfl

theorem frame_since {n k : Nat} (closing : h.events[n]? = some .close) (later : n < k) :
    ∃ calls nextCall ledger, h.state k = { h.state (n + 1) with calls, nextCall, ledger } := by
  have closed := close_closes closing
  refine induction (P := fun _ (c : Client App) =>
    ∃ calls nextCall ledger, c = { h.state (n + 1) with calls, nextCall, ledger }) (Nat.succ_le_of_lt later)
    ⟨_, _, _, rfl⟩ ?_ (fun _ _ _ => id)
  rintro j e _ _ ⟨_, _, _, same⟩
  have shut : (h.state j).Shut := h.shut j (by rw [same]; exact closed)
  obtain ⟨_, _, _, frame⟩ := shut.step_frame e
  rw [frame, same]
  exact ⟨_, _, _, rfl⟩

theorem closed_since {n k : Nat} (closing : h.events[n]? = some .close) (later : n < k) :
    (h.state k).closed = true := by
  obtain ⟨_, _, _, frame⟩ := frame_since closing later
  rw [frame]
  exact close_closes closing

theorem close_silent {n : Nat} (closing : h.events[n]? = some .close) : (h.state (n + 1)).sent = (h.state n).sent := by
  rw [state_succ closing]
  simp only [Client.step, Client.close]
  split <;> rfl

/-! ### Calls that wait -/

theorem close_aborts {n : Nat} (closing : h.events[n]? = some .close) {i : CallId} {q : QueryId} {key : CheckKey}
    {purpose : Purpose} (waiting : (h.state n).phase? i = some (.waiting q key purpose))
    (pending : (h.state n).outcome? q = none) :
    (h.state (n + 1)).phase? i = some (.waiting q key purpose) ∧
      (h.state (n + 1)).outcome? q = some (.error .closed) := by
  constructor
  · rw [state_succ closing, Client.phase?_others (by rintro ⟨⟩) (phase?_lt waiting)]
    exact waiting
  -- The query is in flight, since it has not ended, and what is in flight is aborted.
  · obtain ⟨l, sooner, _, _, _, _, _, _, _, found, _⟩ := waited_since waiting
    obtain ⟨status, present, _⟩ := key_kept sooner found
    have running := (Client.outcome?_eq_none present).mp pending
    have flying : (h.state n).inFlight.find? key = some q := (h.sound n).pending q key status present running
    have opened : (h.state n).closed = false := (h.sound n).opened flying
    have aborted : status.abort = .aborted := if_neg (Bool.eq_false_iff.mp running)
    rw [state_succ closing, Client.step, Client.close, opened, if_neg Bool.false_ne_true]
    refine Client.outcome?_some.mpr ⟨⟨key, .aborted⟩, ?_, rfl⟩
    refine ((h.state n).find?_abortQueries q).trans ?_
    simp only [present, Option.map_some, flying, aborted, ↓reduceIte]

theorem TurnedAway.step {n k : Nat} {i : CallId} (after : n < k) (turned : h.TurnedAway n k i) :
    h.TurnedAway n (k + 1) i := by
  cases turned with
  | taken after' before happened had => exact .taken after' (Nat.lt_succ_of_lt before) happened had
  | cancelled after' before happened => exact .cancelled after' (Nat.lt_succ_of_lt before) happened
  | told finished =>
    rcases h.next k with ⟨e, happened, moved⟩ | ⟨_, same⟩
    · rcases Client.phase?_finished (phase?_lt finished) finished e with same | ⟨_, rfl | rfl⟩
      · exact .told (moved ▸ same)
      · exact .taken after (Nat.lt_succ_self k) happened finished
      · exact .cancelled after (Nat.lt_succ_self k) happened
    · exact .told (same ▸ finished)
  | waits waiting aborted ready =>
    rcases waiting_succ waiting with ⟨m, _, happened, _⟩ | happened | still
    · exact .told (state_succ happened ▸ ready m)
    · exact .cancelled after (Nat.lt_succ_self k) happened
    · have aborted' := outcome_kept (Nat.le_succ k) aborted
      exact .waits still aborted' fun _ => Client.phase?_resume still aborted'

theorem turned_away {n k : Nat} (closing : h.events[n]? = some .close) (later : n < k) {i : CallId} {q : QueryId}
    {key : CheckKey} {purpose : Purpose} (waiting : (h.state n).phase? i = some (.waiting q key purpose))
    (pending : (h.state n).outcome? q = none) : h.TurnedAway n k i := by
  obtain ⟨still, aborted⟩ := close_aborts closing waiting pending
  induction later with
  | refl => exact .waits still aborted fun _ => Client.phase?_resume still aborted
  | @step k after ih => exact ih.step after

/-- A call that waits after the client was closed came before. -/
theorem late_waiting {n k : Nat} (closing : h.events[n]? = some .close) (later : n < k) {i : CallId} {q : QueryId}
    {key : CheckKey} {purpose : Purpose} (waiting : (h.state k).phase? i = some (.waiting q key purpose)) :
    (h.state n).phase? i = some (.waiting q key purpose) := by
  obtain ⟨l, _, request, m, called, need, _⟩ := waited_since waiting
  have opened := Client.need?_open need
  rcases Nat.lt_trichotomy l n with sooner | rfl | after
  · exact waiting_throughout called sooner (Nat.le_of_lt later) waiting
  · cases closing.symm.trans called.1
  · cases opened.symm.trans (closed_since closing after)

/-- A closed client holds nothing and sends nothing any more, whatever ends that was begun before. Who waits or comes
later is told that it is closed. -/
theorem close_final (h : ClientHistory App) {n : Nat} (closing : h.events[n]? = some .close) :
    (∀ i q key purpose, (h.state n).phase? i = some (.waiting q key purpose) → (h.state n).outcome? q = none →
      ∀ k, n < k → h.TurnedAway n k i) ∧
    ∀ k, n < k →
      (h.state k).Shut ∧ (h.state k).sent = (h.state n).sent ∧
      (∀ request m, (h.state k).start request m =
        { h.state k with
          calls := (h.state k).calls.insert (h.state k).nextCall ⟨request, .finished (.error .closed)⟩
          nextCall := (h.state k).nextCall + 1 }) ∧
      (∀ providers, (h.state k).registerProviders providers = .error .closed) ∧
      (h.state k).close = h.state k := by
  constructor
  · intro i q key purpose waiting pending k later
    exact turned_away closing later waiting pending
  · intro k later
    have closed := closed_since closing later
    have sent : (h.state k).sent = (h.state n).sent := by
      obtain ⟨_, _, _, frame⟩ := frame_since closing later
      rw [frame]
      exact close_silent closing
    refine ⟨h.shut k closed, sent, ?_, ?_, ?_⟩
    · intro request m
      exact Client.start_closed closed request m
    · intro providers
      exact if_pos closed
    · exact if_pos closed

/-- A registration and two calls that share a query are under way when the client is closed. -/
def closedAmidCalls : ClientHistory Unit :=
  ofEvents [.call .register (atSecond 0), .call (.consume .product 3) (atSecond 0), .ask 0,
    .call (.acquire .product) (atSecond 1), .close, .registerReply 0 (.ok ()) (atSecond 2).now,
    .queryReply 0 (.ok ⟨tenUnits, none⟩) (atSecond 2).now, .resume 1 (atSecond 2),
    .call (.check .product) (atSecond 3)]

theorem closedAmidCalls_final :
    closedAmidCalls.events[4]? = some .close ∧
    (closedAmidCalls.state 4).phase? 1 = some (.waiting 0 .product (.consume 3)) ∧
    (closedAmidCalls.state 4).phase? 2 = some (.waiting 0 .product .slot) ∧
    (closedAmidCalls.state 4).outcome? 0 = none ∧
    (∀ k, 4 < k → closedAmidCalls.TurnedAway 4 k 1 ∧ closedAmidCalls.TurnedAway 4 k 2) ∧
    (closedAmidCalls.state 9).phase? 0 = some (.finished (.ok .done)) ∧
    (closedAmidCalls.state 9).phase? 3 = some (.finished (.error .closed)) ∧
    (closedAmidCalls.state 9).Shut ∧ (closedAmidCalls.state 9).sent.length = 2 := by
  obtain ⟨turned, final⟩ := close_final closedAmidCalls (n := 4) rfl
  obtain ⟨shut, sent, _⟩ := final 9 (by decide)
  refine ⟨rfl, rfl, rfl, rfl, ?_, rfl, rfl, shut, congrArg List.length sent⟩
  intro k later
  exact ⟨turned 1 0 _ _ rfl rfl k later, turned 2 0 _ _ rfl rfl k later⟩

end ClientHistory

end Entitlement
