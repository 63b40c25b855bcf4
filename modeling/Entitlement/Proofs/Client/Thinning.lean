import Entitlement.Proofs.Client.Renumbering

/-!
Clients thinned out to one key. `Thinned t k c d` says that `d` has of `c` what is about the key `k`, under the
numbers that are kept: the cached snapshot, the query in flight, the calls and what they wait for, the slots and what
has been sent. A new call for `k` does the same in both (`Thinned.start`), and one for another key leaves what is
about `k` alone (`Thinned.start_other`). What the two do not share is the window, in which attempts for all keys are
counted.
-/

namespace Entitlement

/-- The key that a request to the authority is about. -/
def AuthorityRequest.key? : AuthorityRequest → Option CheckKey
  | .check key => some key
  | .usage report => some ⟨report.featureId⟩
  | .register _ | .heartbeat _ => none

namespace Client

variable {App : Type}

/-- A new query for a key, which is in flight from now on. -/
def begin (c : Client App) (key : CheckKey) : Client App :=
  { c with
    inFlight := c.inFlight.insert key c.nextQuery
    queries := c.queries.insert c.nextQuery ⟨key, .queued⟩
    nextQuery := c.nextQuery + 1 }

/-- A call goes on with what it hears at once, joins the query in flight, or begins one. -/
theorem fetch_eq (c : Client App) (key : CheckKey) (purpose : Purpose) (m : Moment App) :
    c.fetch key purpose m =
      match c.heard? key m.now, c.inFlight.find? key with
      | some result, _ => c.proceed key purpose result m
      | none, some q => (.waiting q key purpose, c)
      | none, none => (.waiting c.nextQuery key purpose, c.begin key) := by
  unfold fetch lookup heard?
  cases c.cache.get? key m.now with
  | some s => rfl
  | none =>
    cases c.inFlight.find? key with
    | none => simp only [queryStatus?, Table.find?_insert_self, Option.map_some, Option.bind_some, Option.bind_none,
        QueryStatus.result?, begin]
    | some q =>
      simp only [Option.bind_some]
      cases (c.queryStatus? q).bind QueryStatus.result? <;> rfl

/-- What has been sent about a key, the latest last. -/
def sentFor (c : Client App) (k : CheckKey) : List AuthorityRequest := c.sent.filter fun r => r.key? = some k

theorem sentFor_send (c : Client App) (k : CheckKey) (r : AuthorityRequest) :
    (c.send r).sentFor k = c.sentFor k ++ if r.key? = some k then [r] else [] := by
  simp only [sentFor, send, List.filter_append, List.filter_cons, List.filter_nil, decide_eq_true_eq]

/-- `d` has of `c` what is about `k`, under the numbers that are kept. -/
structure Thinned (t : Labels) (k : CheckKey) (c d : Client App) : Prop where
  identity : d.identity = c.identity
  closed : d.closed = c.closed
  providers : d.providers = c.providers
  defaultTtl : d.cache.defaultTtl = c.cache.defaultTtl
  cached : d.cache.entries.find? k = c.cache.entries.find? k
  flight : d.inFlight.find? k = (c.inFlight.find? k).map (t.ranks k).query
  queries : Table.Thinned (fun q => k.Keeps (t.query q)) Eq c.queries d.queries
  nextQuery : d.nextQuery = (t.ranks k).query c.nextQuery
  calls : Table.Thinned (fun i => k.Keeps (t.call i)) (Call.Like (t.ranks k)) c.calls d.calls
  nextCall : d.nextCall = (t.ranks k).call c.nextCall
  ledger : Ledger.Thinned (c.slotKey k) (fun g => k.Keeps (t.guard g)) c.ledger d.ledger
  sent : d.sentFor k = c.sentFor k

namespace Thinned

variable {t : Labels} {k : CheckKey} {c d : Client App}

theorem slotKey (thinned : Thinned t k c d) : d.slotKey k = c.slotKey k := by
  rw [Client.slotKey, thinned.identity, Client.slotKey]

theorem get? (thinned : Thinned t k c d) (now : Instant) : d.cache.get? k now = c.cache.get? k now := by
  rw [Cache.get?, thinned.cached, Cache.get?]

theorem query? (thinned : Thinned t k c d) {q : QueryId} (keeps : k.Keeps (t.query q)) :
    d.queries.find? ((t.ranks k).query q) = c.queries.find? q :=
  thinned.queries.find?_eq keeps

theorem outcome? (thinned : Thinned t k c d) {q : QueryId} (keeps : k.Keeps (t.query q)) :
    d.outcome? ((t.ranks k).query q) = c.outcome? q := by
  rw [Client.outcome?, queryStatus?, thinned.query? keeps, Client.outcome?, queryStatus?]

theorem heard? (thinned : Thinned t k c d) (flying : ∀ q, c.inFlight.find? k = some q → t.query q = some k)
    (now : Instant) : d.heard? k now = c.heard? k now := by
  unfold Client.heard?
  rw [thinned.get?, thinned.flight]
  cases c.cache.get? k now with
  | some s => rfl
  | none =>
    cases flown : c.inFlight.find? k with
    | none => rfl
    | some q => exact thinned.outcome? (flying q flown ▸ k.keeps_self)

/-- The window is not shared. -/
theorem window (thinned : Thinned t k c d) (w w' : RateWindow) :
    Thinned t k { c with window := w } { d with window := w' } :=
  { thinned with }

theorem send (thinned : Thinned t k c d) (r : AuthorityRequest) : Thinned t k (c.send r) (d.send r) where
  __ := thinned
  sent := by rw [sentFor_send, thinned.sent, sentFor_send]

theorem send_other (thinned : Thinned t k c d) {r : AuthorityRequest} (other : r.key? ≠ some k) :
    Thinned t k (c.send r) d where
  __ := thinned
  sent := by rw [sentFor_send, if_neg other, List.append_nil, thinned.sent]

/-- What is sent about no key is not compared. -/
theorem send_aside (thinned : Thinned t k c d) {r r' : AuthorityRequest} (aside : r.key? ≠ some k)
    (aside' : r'.key? ≠ some k) : Thinned t k (c.send r) (d.send r') where
  __ := thinned
  sent := by rw [sentFor_send, sentFor_send, if_neg aside, if_neg aside', thinned.sent]

theorem setPhase (thinned : Thinned t k c d) {i : CallId} (keeps : k.Keeps (t.call i)) {phase phase' : Phase}
    (like : ∀ call, c.calls.find? i = some call → phase.Like call.request.ReadsRate (t.ranks k) phase') :
    Thinned t k (c.setPhase i phase) (d.setPhase ((t.ranks k).call i) phase') where
  __ := thinned
  calls := thinned.calls.modify keeps fun x _ found alike => ⟨alike.request, like x found⟩

theorem setPhase_other (thinned : Thinned t k c d) {i : CallId} (other : ¬ k.Keeps (t.call i)) (phase : Phase) :
    Thinned t k (c.setPhase i phase) d where
  __ := thinned
  calls := thinned.calls.modify_other other _

/-! ### Going on with a snapshot -/

theorem sendReport (thinned : Thinned t k c d) (amount : UInt64) (m : Moment App) :
    (∃ e, c.sendReport k amount m = .error e ∧ d.sendReport k amount m = .error e) ∨
      ∃ r, c.sendReport k amount m = .ok (c.send r) ∧ d.sendReport k amount m = .ok (d.send r) := by
  unfold Client.sendReport
  rw [thinned.closed, thinned.identity]
  cases c.closed with
  | true => exact Or.inl ⟨_, rfl, rfl⟩
  | false =>
    cases unixTime m.wallSeconds with
    | error e => exact Or.inl ⟨_, rfl, rfl⟩
    | ok timestamp => exact Or.inr ⟨_, rfl, rfl⟩

theorem sendReport_other (thinned : Thinned t k c d) {key : CheckKey} (other : key ≠ k) {amount : UInt64}
    {m : Moment App} {after : Client App} (sent : c.sendReport key amount m = .ok after) : Thinned t k after d := by
  obtain ⟨_, _, rfl⟩ := sendReport_ok sent
  exact thinned.send_other fun same => other (Option.some.inj same)

theorem proceed (thinned : Thinned t k c d) {rates : Prop} {purpose purpose' : Purpose}
    (like : purpose.Like rates purpose') (result : Except ClientError Snapshot) (m : Moment App)
    (names : t.Names (c.proceed k purpose result m).2) :
    Thinned t k (c.proceed k purpose result m).2 (d.proceed k purpose' result m).2 ∧
      (c.proceed k purpose result m).1.Like rates (t.ranks k) (d.proceed k purpose' result m).1 := by
  cases result with
  | error e => exact ⟨thinned, .failed e⟩
  | ok s =>
    cases like with
    | rate differ => exact ⟨thinned, .finished (.rated differ ..)⟩
    | refl =>
      cases purpose with
      | «show» => exact ⟨thinned, .finished (.renumbered (.ok (.snapshot s)))⟩
      | rate current => exact ⟨thinned, .finished (.renumbered (.ok (.rated (s.checkRate current))))⟩
      | capacity used => exact ⟨thinned, .finished (.renumbered (.ok (.measured (s.checkCapacity used))))⟩
      | consume amount =>
        simp only [Client.proceed, decide]
        split
        · exact ⟨thinned, .finished (.renumbered (.ok (.consumed (s.consume amount))))⟩
        · rcases thinned.sendReport amount m with ⟨e, failed, failed'⟩ | ⟨r, sent, sent'⟩
          · rw [failed, failed']
            exact ⟨thinned, .failed _⟩
          · rw [sent, sent']
            exact ⟨thinned.send r, .reporting _⟩
      | slot =>
        have named (granted : (s.acquireSlot c.ledger (c.slotKey k)).1.isAcquired = true) :
            k.Keeps (t.guard c.ledger.nextGuard) := by
          rw [names.guard _ _ (Ledger.acquireSlot_guard granted)]
          exact k.keeps_self
        obtain ⟨ledger, outcome⟩ := thinned.ledger.acquireSlot s named
        simp only [Client.proceed, decide, thinned.slotKey, outcome]
        exact ⟨{ thinned with ledger }, .finished (.renumbered (.ok (.slot _)))⟩

theorem proceed_other (thinned : Thinned t k c d) {key : CheckKey} (other : key ≠ k) (purpose : Purpose)
    (result : Except ClientError Snapshot) (m : Moment App) (names : t.Names (c.proceed key purpose result m).2) :
    Thinned t k (c.proceed key purpose result m).2 d := by
  cases result with
  | error e => exact thinned
  | ok s =>
    cases purpose with
    | «show» | rate | capacity => exact thinned
    | consume amount =>
      simp only [Client.proceed, decide]
      split
      · exact thinned
      · split
        · next sent => exact thinned.sendReport_other other sent
        · exact thinned
    | slot =>
      have apart : c.slotKey key ≠ c.slotKey k := fun same => other (SlotKey.mk.inj same).2
      have named (granted : (s.acquireSlot c.ledger (c.slotKey key)).1.isAcquired = true) :
          ¬ k.Keeps (t.guard c.ledger.nextGuard) := by
        rw [names.guard _ _ (Ledger.acquireSlot_guard granted)]
        exact fun keeps => other keeps.eq
      exact { thinned with ledger := thinned.ledger.acquireSlot_other s apart named }

/-! ### Looking for a snapshot -/

theorem begin (thinned : Thinned t k c d) (keeps : k.Keeps (t.query c.nextQuery)) :
    Thinned t k (c.begin k) (d.begin k) where
  __ := thinned
  flight := by simp only [Client.begin, Table.find?_insert_self, Option.map_some, thinned.nextQuery]
  queries := by
    simp only [Client.begin, thinned.nextQuery]
    exact thinned.queries.insert keeps rfl
  nextQuery := by simp only [Client.begin, thinned.nextQuery, t.ranks_query_succ, keeps, ↓reduceIte]

theorem begin_other (thinned : Thinned t k c d) {key : CheckKey} (other : key ≠ k)
    (gone : ¬ k.Keeps (t.query c.nextQuery)) : Thinned t k (c.begin key) d where
  __ := thinned
  flight := by simp only [Client.begin, Table.find?_insert_of_ne _ other.symm, thinned.flight]
  queries := thinned.queries.insert_other gone _
  nextQuery := by simp only [Client.begin, thinned.nextQuery, t.ranks_query_succ, gone, ↓reduceIte, Nat.add_zero]

theorem fetch (thinned : Thinned t k c d) (flying : ∀ q, c.inFlight.find? k = some q → t.query q = some k)
    {rates : Prop} {purpose purpose' : Purpose} (like : purpose.Like rates purpose') (m : Moment App)
    (names : t.Names (c.fetch k purpose m).2) :
    Thinned t k (c.fetch k purpose m).2 (d.fetch k purpose' m).2 ∧
      (c.fetch k purpose m).1.Like rates (t.ranks k) (d.fetch k purpose' m).1 := by
  rw [fetch_eq] at names ⊢
  rw [fetch_eq, thinned.heard? flying]
  cases heard : c.heard? k m.now with
  | some result =>
    rw [heard] at names
    exact thinned.proceed like result m names
  | none =>
    rw [thinned.flight]
    cases free : c.inFlight.find? k with
    | some q => exact ⟨thinned, .waiting q k like⟩
    | none =>
      rw [heard, free] at names
      have new : k.Keeps (t.query c.nextQuery) := by
        rw [names.query _ _ (Table.find?_insert_self ..)]
        exact k.keeps_self
      refine ⟨thinned.begin new, ?_⟩
      rw [Option.map_none, thinned.nextQuery]
      exact .waiting c.nextQuery k like

theorem fetch_other (thinned : Thinned t k c d) {key : CheckKey} (other : key ≠ k) (purpose : Purpose)
    (m : Moment App) (names : t.Names (c.fetch key purpose m).2) : Thinned t k (c.fetch key purpose m).2 d := by
  rw [fetch_eq] at names ⊢
  cases heard : c.heard? key m.now with
  | some result =>
    rw [heard] at names
    exact thinned.proceed_other other purpose result m names
  | none =>
    cases free : c.inFlight.find? key with
    | some q => exact thinned
    | none =>
      rw [heard, free] at names
      refine thinned.begin_other other ?_
      rw [names.query _ _ (Table.find?_insert_self ..)]
      exact fun keeps => other keeps.eq

/-! ### New calls -/

theorem enter (thinned : Thinned t k c d) (flying : ∀ q, c.inFlight.find? k = some q → t.query q = some k)
    {request : CallRequest} (keeps : k.Keeps request.key?) (m : Moment App) (names : t.Names (c.enter request m).2) :
    Thinned t k (c.enter request m).2 (d.enter request m).2 ∧
      (c.enter request m).1.Like request.ReadsRate (t.ranks k) (d.enter request m).1 := by
  have attempted := thinned.window (c.window.recordEvent m.now) (d.window.recordEvent m.now)
  cases request with
  | check key =>
    obtain rfl := keeps.eq
    exact thinned.fetch flying (.refl _) m names
  | report key amount =>
    obtain rfl := keeps.eq
    simp only [Client.enter]
    rcases thinned.sendReport amount m with ⟨e, failed, failed'⟩ | ⟨r, sent, sent'⟩
    · rw [failed, failed']
      exact ⟨thinned, .failed e⟩
    · rw [sent, sent']
      exact ⟨thinned.send r, .reporting none⟩
  | consume | checkCapacity | acquire =>
    obtain rfl := keeps.eq
    exact attempted.fetch flying (.refl _) m names
  | consumeFor context =>
    obtain rfl := keeps.eq
    simp only [Client.enter, thinned.providers] at names ⊢
    exact attempted.fetch flying (.refl _) m names
  | checkRate key =>
    obtain rfl := keeps.eq
    have read := thinned.window (c.providers.currentRate m.app (c.recordAttempt m.now).window m.now).2
      (d.providers.currentRate m.app (d.recordAttempt m.now).window m.now).2
    exact read.fetch flying (.rate trivial _ _) m names
  | checkCapacityCounted key =>
    obtain rfl := keeps.eq
    simp only [Client.enter, thinned.providers] at names ⊢
    cases counted : c.providers.capacityUsage m.app with
    | error e => exact ⟨thinned, .failed _⟩
    | ok used =>
      rw [counted] at names
      exact attempted.fetch flying (.refl _) m names
  | register => exact ⟨thinned.send_aside (Option.some_ne_none k).symm (Option.some_ne_none k).symm, .registering⟩

theorem enter_other (thinned : Thinned t k c d) {request : CallRequest} (other : ¬ k.Keeps request.key?)
    (m : Moment App) (names : t.Names (c.enter request m).2) : Thinned t k (c.enter request m).2 d := by
  have apart {key : CheckKey} (own : request.key? = some key) : key ≠ k := by
    rintro rfl
    exact other (Or.inr own)
  have measured (w : RateWindow) := thinned.window w d.window
  cases request with
  | check key => exact thinned.fetch_other (apart rfl) _ m names
  | report key amount =>
    simp only [Client.enter]
    split
    · next sent => exact thinned.sendReport_other (apart rfl) sent
    · exact thinned
  | consume | consumeFor | checkCapacity | acquire => exact (measured _).fetch_other (apart rfl) _ m names
  | checkRate key =>
    simp only [Client.enter] at names ⊢
    exact (measured _).fetch_other (apart rfl) _ m names
  | checkCapacityCounted key =>
    simp only [Client.enter] at names ⊢
    cases counted : c.providers.capacityUsage m.app with
    | error e => exact thinned
    | ok used =>
      rw [counted] at names
      exact (measured _).fetch_other (apart rfl) _ m names
  | register => exact (other (Or.inl rfl)).elim

theorem start (thinned : Thinned t k c d) (fits : t.Fits c) {request : CallRequest} (keeps : k.Keeps request.key?)
    (m : Moment App) (after : t.Fits (c.start request m)) :
    Thinned t k (c.start request m) (d.start request m) := by
  have new : k.Keeps (t.call c.nextCall) := by
    obtain ⟨_, found⟩ := c.start_request request m
    rw [after.call _ _ found]
    exact keeps
  have entered {phase phase' : Phase} {c' d' : Client App} (thinned' : Thinned t k c' d')
      (like : phase.Like request.ReadsRate (t.ranks k) phase') :
      Thinned t k { c' with calls := c'.calls.insert c.nextCall ⟨request, phase⟩, nextCall := c.nextCall + 1 }
        { d' with calls := d'.calls.insert d.nextCall ⟨request, phase'⟩, nextCall := d.nextCall + 1 } := by
    rw [thinned.nextCall]
    refine { thinned' with calls := thinned'.calls.insert new ⟨rfl, like⟩, nextCall := ?_ }
    simp only [t.ranks_call_succ, new, ↓reduceIte]
  unfold Client.start at after ⊢
  rw [thinned.closed]
  cases closed : c.closed with
  | true => exact entered thinned (.failed .closed)
  | false =>
    simp only [closed, Bool.false_eq_true, ↓reduceIte] at after
    obtain ⟨thinned', like⟩ := thinned.enter (fits.flight k) keeps m ⟨after.query, after.guard⟩
    exact entered thinned' like

theorem start_other (thinned : Thinned t k c d) {request : CallRequest} (other : ¬ k.Keeps request.key?)
    (m : Moment App) (after : t.Fits (c.start request m)) : Thinned t k (c.start request m) d := by
  have gone : ¬ k.Keeps (t.call c.nextCall) := by
    obtain ⟨_, found⟩ := c.start_request request m
    rw [after.call _ _ found]
    exact other
  have entered {c' : Client App} (thinned' : Thinned t k c' d) (phase : Phase) :
      Thinned t k { c' with calls := c'.calls.insert c.nextCall ⟨request, phase⟩, nextCall := c.nextCall + 1 }
        d := by
    refine { thinned' with calls := thinned'.calls.insert_other gone _, nextCall := ?_ }
    simp only [thinned.nextCall, t.ranks_call_succ, gone, ↓reduceIte, Nat.add_zero]
  unfold Client.start at after ⊢
  cases closed : c.closed with
  | true => exact entered thinned _
  | false =>
    simp only [closed, Bool.false_eq_true, ↓reduceIte] at after
    exact entered (thinned.enter_other other m ⟨after.query, after.guard⟩) _

end Thinned

end Client

end Entitlement
