import Entitlement.Client

/-!
What one segment of a call does. `need?` says whether a new call needs a snapshot, of which key and what
for; `start_entered` lists all that can become of it, and `resume_settled` what becomes of a call whose
query has ended. Of the client, a call changes no more than these say.
-/

namespace Entitlement

/-- What a call makes of the result of its query: a decision on the snapshot, or the error as it is. -/
inductive Settled : Purpose → Except ClientError Snapshot → Phase → Prop
  | failed (purpose : Purpose) (e : ClientError) : Settled purpose (.error e) (.finished (.error e))
  | shown (s : Snapshot) : Settled .show (.ok s) (.finished (.ok (.snapshot s)))
  | denied {s : Snapshot} (amount : UInt64) (refused : s.admitted = false) :
      Settled (.consume amount) (.ok s) (.finished (.ok (.consumed (s.consume amount))))
  | reporting {s : Snapshot} (amount : UInt64) (admitted : s.admitted = true) :
      Settled (.consume amount) (.ok s) (.reporting (some (s.consume amount)))
  | unreported {s : Snapshot} (amount : UInt64) (e : ClientError) (admitted : s.admitted = true) :
      Settled (.consume amount) (.ok s)
        (.finished (.error (.usageNotRecorded (s.consume amount).remaining e)))
  | rated (s : Snapshot) (current : Float) :
      Settled (.rate current) (.ok s) (.finished (.ok (.rated (s.checkRate current))))
  | measured (s : Snapshot) (used : UInt64) :
      Settled (.capacity used) (.ok s) (.finished (.ok (.measured (s.checkCapacity used))))
  | slot (s : Snapshot) (l : Ledger) (k : SlotKey) :
      Settled .slot (.ok s) (.finished (.ok (.slot (s.acquireSlot l k).1)))

/-- Whether a call of this kind is an attempt at an admission. One that is held against what the application
counts is an attempt only if something is counted. -/
def CallRequest.isAttempt (counted : Bool) : CallRequest → Bool
  | .consume .. | .consumeFor _ | .checkRate _ | .checkCapacity .. | .acquire _ => true
  | .checkCapacityCounted _ => counted
  | .check _ | .report .. | .register => false

def AuthorityRequest.checkKey? : AuthorityRequest → Option CheckKey
  | .check key => some key
  | .usage _ | .register _ | .heartbeat _ => none

theorem Snapshot.consume_admitted (s : Snapshot) (amount : UInt64) :
    (s.consume amount).admitted = s.admitted := by
  unfold Snapshot.consume
  split <;> simp_all

namespace Client

variable {App : Type}

/-- What the authority has been asked about, the latest last. -/
def asks (c : Client App) : List CheckKey := c.sent.filterMap AuthorityRequest.checkKey?

theorem asks_send (c : Client App) (r : AuthorityRequest) :
    (c.send r).asks = c.asks ++ r.checkKey?.toList := by
  cases r <;> simp [asks, send, AuthorityRequest.checkKey?]

/-- The key that a new call needs a snapshot of, and what for. A report and a registration need none, nor
does a call that fails before it gets that far. -/
def need? (c : Client App) (request : CallRequest) (m : Moment App) : Option (CheckKey × Purpose) :=
  if c.closed then none
  else match request with
    | .check key => some (key, .show)
    | .consume key amount => some (key, .consume amount)
    | .consumeFor context => some (.product, .consume (c.providers.amount context))
    | .checkRate key =>
      some (key, .rate (c.providers.currentRate m.app (c.recordAttempt m.now).window m.now).1)
    | .checkCapacity key used => some (key, .capacity used)
    | .checkCapacityCounted key =>
      (c.providers.capacityUsage m.app).toOption.map fun used => (key, .capacity used)
    | .acquire key => some (key, .slot)
    | .report .. | .register => none

theorem need?_open {c : Client App} {request : CallRequest} {m : Moment App} {key : CheckKey}
    {purpose : Purpose} (need : c.need? request m = some (key, purpose)) : c.closed = false := by
  unfold need? at need
  split at need
  · cases need
  · next opened => exact Bool.eq_false_iff.mpr opened

theorem need?_key {c : Client App} {request : CallRequest} {m : Moment App} {key : CheckKey}
    {purpose : Purpose} (need : c.need? request m = some (key, purpose)) : request.key? = some key := by
  unfold need? at need
  split at need
  · cases need
  cases request with
  | checkCapacityCounted key' =>
    obtain ⟨_, _, same⟩ := Option.map_eq_some_iff.mp need
    exact congrArg some (Prod.mk.inj same).1
  | report | register => cases need
  | _ => exact congrArg some (Prod.mk.inj (Option.some.inj need)).1

/-! ### Deciding -/

theorem sendReport_ok {c t : Client App} {key : CheckKey} {amount : UInt64} {m : Moment App}
    (sent : c.sendReport key amount m = .ok t) :
    c.closed = false ∧ ∃ timestamp, t = c.send (.usage ⟨c.identity, key.text, amount, timestamp⟩) := by
  unfold sendReport at sent
  split at sent
  · cases sent
  · next opened =>
    split at sent
    · cases sent
    · exact ⟨Bool.eq_false_iff.mpr opened, _, (Except.ok.inj sent).symm⟩

/-- Whatever a call makes of its result, it leaves everything but the ledger and the requests as they are,
and it does not ask for another snapshot. -/
theorem proceed_frame (c : Client App) (key : CheckKey) (purpose : Purpose)
    (result : Except ClientError Snapshot) (m : Moment App) :
    (c.proceed key purpose result m).2.asks = c.asks ∧
      ∃ sent ledger, (c.proceed key purpose result m).2 = { c with sent, ledger } := by
  cases result with
  | error e => exact ⟨rfl, _, _, rfl⟩
  | ok s =>
    cases purpose with
    | «show» | rate | capacity | slot => exact ⟨rfl, _, _, rfl⟩
    | consume amount =>
      simp only [proceed, decide]
      split
      · exact ⟨rfl, _, _, rfl⟩
      · cases reported : c.sendReport key amount m with
        | error e => exact ⟨rfl, _, _, rfl⟩
        | ok t =>
          obtain ⟨_, _, rfl⟩ := sendReport_ok reported
          exact ⟨(c.asks_send _).trans (List.append_nil _), _, _, rfl⟩

theorem proceed_settled (c : Client App) (key : CheckKey) (purpose : Purpose)
    (result : Except ClientError Snapshot) (m : Moment App) :
    Settled purpose result (c.proceed key purpose result m).1 := by
  cases result with
  | error e => exact .failed purpose e
  | ok s =>
    cases purpose with
    | «show» => exact .shown s
    | rate current => exact .rated s current
    | capacity used => exact .measured s used
    | slot => exact .slot s c.ledger (c.slotKey key)
    | consume amount =>
      simp only [proceed, decide, Snapshot.consume_admitted]
      cases admitted : s.admitted with
      | false => exact .denied amount admitted
      | true =>
        cases c.sendReport key amount m with
        | ok t => exact .reporting amount admitted
        | error e => exact .unreported amount e admitted

theorem lookup_window (c : Client App) (key : CheckKey) (now : Instant) :
    (c.lookup key now).2.window = c.window := by
  unfold lookup
  split <;> rfl

theorem fetch_window (c : Client App) (key : CheckKey) (purpose : Purpose) (m : Moment App) :
    (c.fetch key purpose m).2.window = c.window := by
  have proceeds (t : Client App) (result : Except ClientError Snapshot) :
      (t.proceed key purpose result m).2.window = t.window := by
    obtain ⟨_, _, _, same⟩ := t.proceed_frame key purpose result m
    rw [same]
  have found := c.lookup_window key m.now
  unfold fetch
  split
  · next s t looked =>
    rw [looked] at found
    exact (proceeds t (.ok s)).trans found
  · next q t looked =>
    rw [looked] at found
    split
    · next result _ => exact (proceeds t result).trans found
    · exact found

/-! ### Entering -/

/-- A phase in which a call is that never needed a snapshot. -/
inductive Idle : Phase → Prop
  | failed (e : ClientError) : Idle (.finished (.error e))
  | reporting : Idle (.reporting none)
  | registering : Idle .registering

/-- All that can become of a new call: what it leaves of the client, and how far it gets. -/
inductive Entered (c : Client App) (request : CallRequest) (m : Moment App) : Phase → Client App → Prop
  | idle {phase : Phase} (sent : List AuthorityRequest) (noNeed : c.need? request m = none)
      (idle : Idle phase) (asks : sent.filterMap AuthorityRequest.checkKey? = c.asks) :
      Entered c request m phase { c with sent }
  | hit {key : CheckKey} {purpose : Purpose} {s : Snapshot} (window : RateWindow)
      (need : c.need? request m = some (key, purpose)) (fresh : c.cache.get? key m.now = some s) :
      Entered c request m ({ c with window }.proceed key purpose (.ok s) m).1
        ({ c with window }.proceed key purpose (.ok s) m).2
  | told {key : CheckKey} {purpose : Purpose} {q : QueryId} {result : Except ClientError Snapshot}
      (window : RateWindow) (need : c.need? request m = some (key, purpose))
      (stale : c.cache.get? key m.now = none) (inFlight : c.inFlight.find? key = some q)
      (ended : (c.queryStatus? q).bind QueryStatus.result? = some result) :
      Entered c request m ({ c with window }.proceed key purpose result m).1
        ({ c with window }.proceed key purpose result m).2
  | joined {key : CheckKey} {purpose : Purpose} {q : QueryId} (window : RateWindow)
      (need : c.need? request m = some (key, purpose)) (stale : c.cache.get? key m.now = none)
      (inFlight : c.inFlight.find? key = some q)
      (pending : (c.queryStatus? q).bind QueryStatus.result? = none) :
      Entered c request m (.waiting q key purpose) { c with window }
  | begun {key : CheckKey} {purpose : Purpose} (window : RateWindow)
      (need : c.need? request m = some (key, purpose)) (stale : c.cache.get? key m.now = none)
      (free : c.inFlight.find? key = none) :
      Entered c request m (.waiting c.nextQuery key purpose)
        { c with
          window
          inFlight := c.inFlight.insert key c.nextQuery
          queries := c.queries.insert c.nextQuery ⟨key, .queued⟩
          nextQuery := c.nextQuery + 1 }

theorem fetch_entered {c : Client App} {request : CallRequest} {m : Moment App} {key : CheckKey}
    {purpose : Purpose} (window : RateWindow) (need : c.need? request m = some (key, purpose)) :
    Entered c request m ({ c with window }.fetch key purpose m).1
      ({ c with window }.fetch key purpose m).2 := by
  cases fresh : c.cache.get? key m.now with
  | some s =>
    simp only [fetch, lookup, fresh]
    exact .hit window need fresh
  | none =>
    cases inFlight : c.inFlight.find? key with
    | none =>
      simp only [fetch, lookup, fresh, inFlight, queryStatus?, Table.find?_insert_self, Option.map_some,
        Option.bind_some, QueryStatus.result?]
      exact .begun window need fresh inFlight
    | some q =>
      simp only [fetch, lookup, fresh, inFlight]
      cases ended : (c.queryStatus? q).bind QueryStatus.result? with
      | some result =>
        have same : ((({ c with window } : Client App).queryStatus? q).bind QueryStatus.result?) =
          some result := ended
        simp only [same]
        exact .told window need fresh inFlight ended
      | none =>
        have same : ((({ c with window } : Client App).queryStatus? q).bind QueryStatus.result?) = none :=
          ended
        simp only [same]
        exact .joined window need fresh inFlight ended

theorem Entered.frame {c after : Client App} {request : CallRequest} {m : Moment App} {phase : Phase}
    (entered : Entered c request m phase after) :
    ∃ window inFlight queries nextQuery sent ledger,
      after = { c with window, inFlight, queries, nextQuery, sent, ledger } := by
  cases entered with
  | idle | joined | begun => exact ⟨_, _, _, _, _, _, rfl⟩
  | @hit key purpose s window | @told key purpose q result window =>
    obtain ⟨_, _, _, same⟩ := { c with window }.proceed_frame key purpose _ m
    rw [same]
    exact ⟨_, _, _, _, _, _, rfl⟩

theorem enter_entered {c : Client App} (opened : c.closed = false) (request : CallRequest)
    (m : Moment App) : Entered c request m (c.enter request m).1 (c.enter request m).2 := by
  cases request with
  | check key => exact fetch_entered c.window (by simp [need?, opened])
  | report key amount =>
    have noNeed : c.need? (.report key amount) m = none := by simp [need?]
    cases reported : c.sendReport key amount m with
    | error e =>
      simp only [enter, reported]
      exact .idle c.sent noNeed (.failed e) rfl
    | ok t =>
      obtain ⟨_, _, rfl⟩ := sendReport_ok reported
      simp only [enter, reported]
      exact .idle _ noNeed .reporting ((c.asks_send _).trans (List.append_nil _))
  | consume key amount => exact fetch_entered _ (by simp [need?, opened])
  | consumeFor context => exact fetch_entered _ (by simp [need?, opened])
  | checkRate key => exact fetch_entered _ (by simp only [need?, opened]; rfl)
  | checkCapacity key used => exact fetch_entered _ (by simp [need?, opened])
  | checkCapacityCounted key =>
    simp only [enter]
    cases counted : c.providers.capacityUsage m.app with
    | ok used => exact fetch_entered _ (by simp [need?, opened, counted, Except.toOption])
    | error e => exact .idle c.sent (by simp [need?, counted, Except.toOption]) (.failed _) rfl
  | acquire key => exact fetch_entered _ (by simp [need?, opened])
  | register => exact .idle _ (by simp [need?]) .registering ((c.asks_send _).trans (List.append_nil _))

/-- A new call is entered among the calls with what has become of it. -/
theorem start_entered (c : Client App) (request : CallRequest) (m : Moment App) :
    ∃ phase after, Entered c request m phase after ∧
      c.start request m =
        { after with
          calls := after.calls.insert c.nextCall ⟨request, phase⟩
          nextCall := c.nextCall + 1 } := by
  unfold start
  cases state : c.closed with
  | true => exact ⟨_, _, .idle c.sent (by simp [need?, state]) (.failed .closed) rfl, rfl⟩
  | false => exact ⟨_, _, enter_entered state request m, rfl⟩

/-! ### The window -/

/-- Reading the rate right after an attempt was recorded drops nothing more. -/
theorem currentRate_window (r : ProviderRegistry App) (app : App) (w : RateWindow) (now : Instant) :
    (r.currentRate app (w.recordEvent now) now).2 = w.recordEvent now := by
  have read : ((w.recordEvent now).currentRate now).2 = w.recordEvent now := RateWindow.prune_prune ..
  unfold ProviderRegistry.currentRate
  split
  · next p _ =>
    unfold RegisteredProviders.currentRate RateSource.currentRate
    split
    · rfl
    · exact read
  · exact read

theorem enter_window (c : Client App) (request : CallRequest) (m : Moment App) :
    (c.enter request m).2.window =
      if request.isAttempt c.providers.isRegistered then c.window.recordEvent m.now else c.window := by
  cases request with
  | check key => exact c.fetch_window key .show m
  | report key amount =>
    simp only [enter]
    cases sent : c.sendReport key amount m with
    | ok =>
      obtain ⟨_, _, rfl⟩ := sendReport_ok sent
      rfl
    | error => rfl
  | register => rfl
  | checkRate key => exact (fetch_window ..).trans (currentRate_window ..)
  | checkCapacityCounted key =>
    cases installed : c.providers.installed with
    | none => simp [enter, ProviderRegistry.capacityUsage, ProviderRegistry.isRegistered, installed,
        CallRequest.isAttempt]
    | some p =>
      simp only [enter, ProviderRegistry.capacityUsage, installed]
      rw [fetch_window, if_pos (by simp [CallRequest.isAttempt, ProviderRegistry.isRegistered, installed])]
      rfl
  | _ => exact fetch_window ..

theorem start_window (c : Client App) (request : CallRequest) (m : Moment App) :
    (c.start request m).window =
      if !c.closed && request.isAttempt c.providers.isRegistered then c.window.recordEvent m.now
      else c.window := by
  unfold start
  cases c.closed with
  | true => rfl
  | false => exact c.enter_window request m

/-! ### Going on -/

/-- A call goes on only if it waits for a query that has ended. -/
theorem resume_settled (c : Client App) (i : CallId) (m : Moment App) :
    c.resume i m = c ∨ ∃ q key purpose result,
      c.phase? i = some (.waiting q key purpose) ∧
      (c.queryStatus? q).bind QueryStatus.result? = some result ∧
      c.resume i m = (c.proceed key purpose result m).2.setPhase i (c.proceed key purpose result m).1 := by
  unfold resume
  split
  · next q key purpose phase =>
    split
    · next result ended => exact Or.inr ⟨q, key, purpose, result, phase, ended, rfl⟩
    · exact Or.inl rfl
  · exact Or.inl rfl

theorem resume_frame (c : Client App) (i : CallId) (m : Moment App) :
    ∃ sent ledger calls, c.resume i m = { c with sent, ledger, calls } := by
  rcases c.resume_settled i m with same | ⟨q, key, purpose, result, _, _, same⟩
  · exact ⟨_, _, _, same⟩
  · obtain ⟨_, _, _, frame⟩ := c.proceed_frame key purpose result m
    rw [same, frame]
    exact ⟨_, _, _, rfl⟩

end Client

end Entitlement
