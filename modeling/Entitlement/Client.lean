import Entitlement.Authority
import Entitlement.Cache
import Entitlement.Client.Call
import Entitlement.Client.Heartbeat
import Entitlement.Providers

/-!
The client: everything that one instance knows and has under way. Its calls suspend where they wait for
the authority, so what happens between two suspensions is one operation here, at one moment. All
queries of a key share one flight: who needs a snapshot that is not at hand joins the query under way.
-/

namespace Entitlement

/-- The time, and the state of the application, when something happens. -/
structure Moment (App : Type) where
  now : Instant
  /-- Seconds since the epoch. -/
  wallSeconds : Int
  app : App

structure Client (App : Type) where
  config : ClientConfig
  identity : String
  publicKey : String
  cache : Cache Snapshot
  window : RateWindow
  ledger : Ledger := {}
  providers : ProviderRegistry App := {}
  /-- The query that the next caller joins, for each key. -/
  inFlight : Table CheckKey QueryId := .empty
  queries : Table QueryId Query := .empty
  nextQuery : QueryId := 0
  calls : Table CallId Call := .empty
  nextCall : CallId := 0
  heartbeat : HeartbeatLoop := .off
  closed : Bool := false
  /-- What has been sent to the authority, the latest last. -/
  sent : List AuthorityRequest := []

namespace Client

variable {App : Type}

/-- A client needs a configuration that fits. -/
def build (config : Option ClientConfig) (a : Authenticator) : Except ClientError (Client App) :=
  match config with
  | none => .error (.config "client configuration is required")
  | some config =>
    match config.validate, RateWindow.ofLength config.rateWindow with
    | .error e, _ => .error (.ofConfig e)
    | .ok _, .error e => .error (.limit e)
    | .ok _, .ok window =>
      .ok { config, identity := a.identity, publicKey := a.publicKey, cache := .empty config.cacheTtl, window }

def failurePolicy (c : Client App) : FailurePolicy := c.config.failurePolicy

def slotKey (c : Client App) (key : CheckKey) : SlotKey := ⟨c.identity, key⟩

def slotsInUse (c : Client App) (key : CheckKey) : UInt64 := c.ledger.inUse (c.slotKey key)

def heartbeatRunning (c : Client App) : Bool := c.heartbeat.isRunning

/-- The rate that the client itself observes. -/
def internalRate (c : Client App) (now : Instant) : Float × Client App :=
  let (rate, window) := c.window.currentRate now
  (rate, { c with window })

def shown (c : Client App) : String :=
  Text.shown "LicenseClient"
    [("identity", Text.quoted c.identity), ("authority_url", Text.quoted c.config.authorityUrl),
     ("closed", Text.shownBool c.closed)]

def queryStatus? (c : Client App) (q : QueryId) : Option QueryStatus := (c.queries.find? q).map Query.status

def phase? (c : Client App) (i : CallId) : Option Phase := (c.calls.find? i).map Call.phase

def setPhase (c : Client App) (i : CallId) (phase : Phase) : Client App :=
  { c with calls := c.calls.modify i fun call => { call with phase } }

def setStatus (c : Client App) (q : QueryId) (status : QueryStatus) : Client App :=
  { c with queries := c.queries.modify q fun query => { query with status } }

def send (c : Client App) (r : AuthorityRequest) : Client App := { c with sent := c.sent ++ [r] }

/-! ### Snapshots -/

/-- What a caller finds who needs a snapshot. -/
inductive Lookup
  | fresh (s : Snapshot)
  | pending (query : QueryId)

/-- A fresh snapshot from the cache, else the query under way, else a new query. -/
def lookup (c : Client App) (key : CheckKey) (now : Instant) : Lookup × Client App :=
  match c.cache.get? key now, c.inFlight.find? key with
  | some s, _ => (.fresh s, c)
  | none, some q => (.pending q, c)
  | none, none =>
    (.pending c.nextQuery,
      { c with
        inFlight := c.inFlight.insert key c.nextQuery
        queries := c.queries.insert c.nextQuery ⟨key, .queued⟩
        nextQuery := c.nextQuery + 1 })

/-- Puts a usage report on its way. -/
def sendReport (c : Client App) (key : CheckKey) (amount : UInt64) (m : Moment App) :
    Except ClientError (Client App) :=
  if c.closed then .error .closed
  else match unixTime m.wallSeconds with
    | .error e => .error (.ofAuth e)
    | .ok timestamp => .ok (c.send (.usage ⟨c.identity, key.text, amount, timestamp⟩))

/-- What a call does with its snapshot. -/
def decide (c : Client App) (key : CheckKey) (purpose : Purpose) (s : Snapshot) (m : Moment App) :
    Phase × Client App :=
  match purpose with
  | .show => (.finished (.ok (.snapshot s)), c)
  | .consume amount =>
    let outcome := s.consume amount
    if !outcome.admitted then (.finished (.ok (.consumed outcome)), c)
    else match c.sendReport key amount m with
      | .ok c => (.reporting (some outcome), c)
      | .error e => (.finished (.error (.usageNotRecorded outcome.remaining e)), c)
  | .rate current => (.finished (.ok (.rated (s.checkRate current))), c)
  | .capacity used => (.finished (.ok (.measured (s.checkCapacity used))), c)
  | .slot =>
    let (outcome, ledger) := s.acquireSlot c.ledger (c.slotKey key)
    (.finished (.ok (.slot outcome)), { c with ledger })

/-- What a call does when the query that it waited for has ended. -/
def proceed (c : Client App) (key : CheckKey) (purpose : Purpose) (result : Except ClientError Snapshot)
    (m : Moment App) : Phase × Client App :=
  match result with
  | .ok s => c.decide key purpose s m
  | .error e => (.finished (.error e), c)

/-- Gets a snapshot for a purpose, or waits for one. A query that broke down stays joined, and has
ended already for those who join it later. -/
def fetch (c : Client App) (key : CheckKey) (purpose : Purpose) (m : Moment App) : Phase × Client App :=
  match c.lookup key m.now with
  | (.fresh s, c) => c.decide key purpose s m
  | (.pending q, c) =>
    match (c.queryStatus? q).bind QueryStatus.result? with
    | some result => c.proceed key purpose result m
    | none => (.waiting q key purpose, c)

/-! ### Calls -/

/-- Every attempt at an admission counts, whatever becomes of it. -/
def recordAttempt (c : Client App) (now : Instant) : Client App :=
  { c with window := c.window.recordEvent now }

def registration (c : Client App) : Registration :=
  ⟨c.config.productId, c.config.productVersion, c.publicKey⟩

/-- The first part of a call on an open client, all at one reading of the clock. -/
def enter (c : Client App) (request : CallRequest) (m : Moment App) : Phase × Client App :=
  match request with
  | .check key => c.fetch key .show m
  | .report key amount =>
    match c.sendReport key amount m with
    | .ok c => (.reporting none, c)
    | .error e => (.finished (.error e), c)
  | .consume key amount => (c.recordAttempt m.now).fetch key (.consume amount) m
  | .consumeFor context =>
    (c.recordAttempt m.now).fetch .product (.consume (c.providers.amount context)) m
  | .checkRate key =>
    let c := c.recordAttempt m.now
    let (current, window) := c.providers.currentRate m.app c.window m.now
    { c with window }.fetch key (.rate current) m
  | .checkCapacity key used => (c.recordAttempt m.now).fetch key (.capacity used) m
  | .checkCapacityCounted key =>
    match c.providers.capacityUsage m.app with
    | .ok used => (c.recordAttempt m.now).fetch key (.capacity used) m
    | .error e => (.finished (.error (.limit e)), c)
  | .acquire key => (c.recordAttempt m.now).fetch key .slot m
  | .register => (.registering, c.send (.register c.registration))

/-- A new call, up to where it first waits. -/
def start (c : Client App) (request : CallRequest) (m : Moment App) : Client App :=
  let (phase, after) := if c.closed then (.finished (.error .closed), c) else c.enter request m
  { after with
    calls := after.calls.insert c.nextCall ⟨request, phase⟩
    nextCall := c.nextCall + 1 }

/-- Goes on with a call whose query has ended. -/
def resume (c : Client App) (i : CallId) (m : Moment App) : Client App :=
  match c.phase? i with
  | some (.waiting q key purpose) =>
    match (c.queryStatus? q).bind QueryStatus.result? with
    | some result =>
      let (phase, c) := c.proceed key purpose result m
      c.setPhase i phase
    | none => c
  | _ => c

/-- The authority has replied to the usage report of a call. -/
def reportReplied (c : Client App) (i : CallId) (reply : Except ClientError Unit) : Client App :=
  match c.phase? i with
  | some (.reporting outcome) =>
    c.setPhase i (.finished (match outcome, reply with
      | none, .ok _ => .ok .done
      | none, .error e => .error e
      | some outcome, .ok _ => .ok (.consumed outcome)
      | some outcome, .error e => .error (.usageNotRecorded outcome.remaining e)))
  | _ => c

/-- The authority has replied to the registration of a call. Only a success on a client that is still
open begins the signs of life. -/
def registerReplied (c : Client App) (i : CallId) (reply : Except ClientError Unit) (now : Instant) :
    Client App :=
  match c.phase? i with
  | some .registering =>
    match reply with
    | .error e => c.setPhase i (.finished (.error e))
    | .ok _ =>
      let heartbeat :=
        if c.closed then c.heartbeat else c.heartbeat.start now
      { c with heartbeat }.setPhase i (.finished (.ok .done))
  | _ => c

/-- The result of a call that has finished is handed over, and the call forgotten. -/
def take (c : Client App) (i : CallId) : Client App :=
  match c.phase? i with
  | some (.finished _) => { c with calls := c.calls.erase i }
  | _ => c

/-- Nobody wants the result of a call any more. A slot that it has taken is free again. -/
def cancel (c : Client App) (i : CallId) : Client App :=
  let ledger := ((c.phase? i).bind Phase.guard?).elim c.ledger c.ledger.drop
  { c with ledger, calls := c.calls.erase i }

/-! ### Queries -/

/-- The authority is asked. -/
def ask (c : Client App) (q : QueryId) : Client App :=
  match c.queries.find? q with
  | some ⟨key, .queued⟩ => (c.setStatus q .asked).send (.check key)
  | _ => c

/-- Takes a query out of the flight of its key, unless that is another query by now. -/
def land (c : Client App) (key : CheckKey) (q : QueryId) : Client App :=
  if c.inFlight.find? key = some q then { c with inFlight := c.inFlight.erase key } else c

/-- The authority has answered a query. Only a snapshot is kept. -/
def queryReplied (c : Client App) (q : QueryId) (reply : Except ClientError Grant) (now : Instant) :
    Client App :=
  match c.queries.find? q with
  | some ⟨key, .asked⟩ =>
    let cache := match reply with
      | .ok grant =>
        if c.closed then c.cache
        else c.cache.put key grant.snapshot (c.cache.effectiveTtl grant.cacheTtl) now
      | .error _ => c.cache
    ({ c with cache }.setStatus q (.answered (reply.map Grant.snapshot))).land key q
  | _ => c

/-- A query breaks down while the authority is asked. It stays in flight. -/
def queryPanicked (c : Client App) (q : QueryId) (message : String) : Client App :=
  match c.queryStatus? q with
  | some .asked => c.setStatus q (.panicked message)
  | _ => c

/-- Aborts what is in flight. -/
def abortQueries (c : Client App) : Client App :=
  { c with
    queries := c.queries.mapValues fun q query =>
      if c.inFlight.find? query.key = some q then { query with status := query.status.abort } else query
    inFlight := .empty }

/-! ### Everything else -/

/-- Whether there was anything to forget. -/
def invalidate (c : Client App) (key : CheckKey) : Bool × Client App :=
  let (found, cache) := c.cache.invalidate key
  (found, { c with cache })

def clearCache (c : Client App) : Client App := { c with cache := c.cache.invalidateAll }

def registerProviders (c : Client App) (p : MeasurementProviders App) :
    Except ClientError (Client App) :=
  if c.closed then .error .closed
  else (c.providers.register p).mapError .limit |>.map fun providers => { c with providers }

def releaseSlot (c : Client App) (g : GuardId) : Client App := { c with ledger := c.ledger.release g }

def dropSlot (c : Client App) (g : GuardId) : Client App := { c with ledger := c.ledger.drop g }

def heartbeatTick (c : Client App) (now : Instant) : Client App :=
  let (due, heartbeat) := c.heartbeat.tick c.config.heartbeatInterval now
  let c := { c with heartbeat }
  if due then c.send (.heartbeat ⟨c.config.productVersion⟩) else c

/-- The authority has replied to a sign of life. Nobody is told what it said. -/
def heartbeatReplied (c : Client App) (_reply : Except ClientError Unit) : Client App :=
  { c with heartbeat := c.heartbeat.reply }

def heartbeatPanicked (c : Client App) : Client App := { c with heartbeat := c.heartbeat.breakDown }

/-- Ends all work and forgets everything. Slots that are held free nothing any more. The second time
nothing happens. -/
def close (c : Client App) : Client App :=
  if c.closed then c
  else
    { c.abortQueries with
      closed := true
      heartbeat := .off
      cache := c.cache.invalidateAll
      window := c.window.reset
      ledger := c.ledger.clear
      providers := c.providers.clear }

/-- Nobody holds the client any more: its work ends too. -/
def abandon (c : Client App) : Client App := { c.abortQueries with heartbeat := .off }

end Client

end Entitlement
