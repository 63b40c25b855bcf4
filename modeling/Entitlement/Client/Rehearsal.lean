import Entitlement.Client

/-!
Clients rehearsed against a prepared authority. What the authority will say is laid down beforehand;
after every action the client runs until nothing more can happen. Calls that wait for the same query
go on in the order in which they began, which is that of their numbers.
-/

namespace Entitlement

/-- What a check is going to be answered. -/
inductive PreparedCheck
  | reply (r : Except ClientError Grant)
  | panic (message : String)

structure PreparedAuthority where
  checks : Table CheckKey PreparedCheck := .empty
  /-- For keys without an answer of their own. -/
  otherChecks : PreparedCheck := .reply (.error (.network "no answer is prepared"))
  usage : Except ClientError Unit := .ok ()
  registration : Except ClientError Unit := .ok ()
  heartbeat : Except ClientError Unit := .ok ()
  /-- Checks are noticed, but not answered. -/
  held : Bool := false

namespace PreparedAuthority

def checkOf (a : PreparedAuthority) (key : CheckKey) : PreparedCheck := (a.checks.find? key).getD a.otherChecks

/-- Without a key the answer holds for all keys that have none of their own. -/
def prepareCheck (a : PreparedAuthority) (key : Option CheckKey) (answer : PreparedCheck) :
    PreparedAuthority :=
  match key with
  | some key => { a with checks := a.checks.insert key answer }
  | none => { a with otherChecks := answer }

end PreparedAuthority

/-- A client, its handles, and what the rehearsal keeps under names. -/
structure Rehearsal (App : Type) where
  client : Client App
  authority : PreparedAuthority := {}
  app : App
  /-- The clock of cache and rate window. -/
  clock : Instant := ⟨0⟩
  /-- The clock of the heartbeat. -/
  timer : Instant := ⟨0⟩
  wallSeconds : Int := 0
  /-- Which handles on the client are still held. -/
  handles : List Bool := [true]
  guards : Table String GuardId := .empty
  /-- Calls left running, and the name for the slot that they may take. -/
  running : Table String (CallId × Option String) := .empty

namespace Rehearsal

variable {App : Type}

/-- What a step shows. -/
inductive Finding
  | result (r : CallResult)
  /-- The call was still waiting. -/
  | cancelled
  | pending
  | unknown

def moment (r : Rehearsal App) : Moment App := ⟨r.clock, r.wallSeconds, r.app⟩

/-! ### Running until nothing more can happen -/

def queryIds (c : Client App) : List QueryId := List.range c.nextQuery

def callIds (c : Client App) : List CallId := List.range c.nextCall

/-- The authority takes note of a query, and answers it unless it holds back. -/
def serveQuery (r : Rehearsal App) (c : Client App) (q : QueryId) : Client App :=
  let c := c.ask q
  match c.queries.find? q with
  | some ⟨key, _⟩ =>
    if r.authority.held then c
    else match r.authority.checkOf key with
      | .reply reply => c.queryReplied q reply r.clock
      | .panic message => c.queryPanicked q message
  | none => c

/-- A call goes as far as it can. -/
def serveCall (r : Rehearsal App) (c : Client App) (i : CallId) : Client App :=
  ((c.resume i r.moment).reportReplied i r.authority.usage).registerReplied i r.authority.registration r.timer

/-- Somebody can still use the client. -/
def isHeld (r : Rehearsal App) : Bool :=
  r.handles.any id || r.client.calls.entries.any fun e => e.2.phase.result?.isNone

/-- Queries first, then the calls that wait for them, then the heartbeat. -/
def settle (r : Rehearsal App) : Rehearsal App :=
  let c := (queryIds r.client).foldl r.serveQuery r.client
  let c := (callIds c).foldl r.serveCall c
  let r := { r with client := (c.heartbeatTick r.timer).heartbeatReplied r.authority.heartbeat }
  if r.isHeld then r else { r with client := r.client.abandon }

/-! ### Actions -/

/-- What time an action takes. -/
def tick : Nat := 1000

/-- The next action begins a little later. -/
def next (r : Rehearsal App) : Rehearsal App := { r with clock := ⟨r.clock.nanos + tick⟩ }

/-- Keeps a slot under a name. The slot that was there before is dropped after that; without a name
the slot is dropped at once. -/
def keepSlot (r : Rehearsal App) (name : Option String) (g : GuardId) : Rehearsal App :=
  match name with
  | none => { r with client := r.client.dropSlot g }
  | some name =>
    let client := (r.guards.find? name).elim r.client r.client.dropSlot
    { r with client, guards := r.guards.insert name g }

/-- Takes the result of a call that has finished. -/
def finish (r : Rehearsal App) (i : CallId) (slotName : Option String) : Option (CallResult × Rehearsal App) :=
  (r.client.phase? i).bind fun phase =>
    phase.result?.map fun result =>
      let after := { r with client := r.client.take i }
      (result, phase.guard?.elim after (after.keepSlot slotName))

def start (r : Rehearsal App) (request : CallRequest) : CallId × Rehearsal App :=
  (r.client.nextCall, { r with client := r.client.start request r.moment }.settle)

/-- A call that is given up if it has to wait. -/
def call (r : Rehearsal App) (request : CallRequest) (slotName : Option String) :
    Finding × Rehearsal App :=
  let (i, r) := r.start request
  match r.finish i slotName with
  | some (result, r) => (.result result, r.settle)
  | none => (.cancelled, { r with client := r.client.cancel i }.settle)

/-- A call that is left running. -/
def spawn (r : Rehearsal App) (name : String) (request : CallRequest) (slotName : Option String) :
    Rehearsal App :=
  let (i, r) := r.start request
  { r with running := r.running.insert name (i, slotName) }

def join (r : Rehearsal App) (name : String) : Finding × Rehearsal App :=
  match r.running.find? name with
  | none => (.unknown, r)
  | some (i, slotName) =>
    match r.finish i slotName with
    | some (result, r) => (.result result, { r with running := r.running.erase name })
    | none => (.pending, r)

def cancel (r : Rehearsal App) (name : String) : Rehearsal App :=
  match r.running.find? name with
  | none => r
  | some (i, _) => { r with client := r.client.cancel i, running := r.running.erase name }.settle

/-- Whether the guard under a name was released before, and whether it is now. -/
def release (r : Rehearsal App) (name : String) : Option (Bool × Bool) × Rehearsal App :=
  let released (c : Client App) (g : GuardId) : Bool := (c.ledger.guards.find? g).any Guard.released
  match r.guards.find? name with
  | none => (none, r)
  | some g =>
    let after := r.client.releaseSlot g
    (some (released r.client g, released after g), { r with client := after })

/-- Whether there was a guard under the name. -/
def drop (r : Rehearsal App) (name : String) : Bool × Rehearsal App :=
  match r.guards.find? name with
  | none => (false, r)
  | some g => (true, { r with client := r.client.dropSlot g, guards := r.guards.erase name })

/-- What the policy of the client makes of a rate check. -/
def policy (r : Rehearsal App) (key : CheckKey) : Option Bool × Rehearsal App :=
  let (finding, r) := r.call (.checkRate key) none
  let admitted (v : CallValue) : Bool := match v with
    | .rated o => o.admitted
    | _ => false
  match finding with
  | .result result => (some (r.client.failurePolicy.admitOr result admitted), r)
  | _ => (none, r)

def clone (r : Rehearsal App) : Nat × Rehearsal App :=
  (r.handles.length, { r with handles := r.handles ++ [true] })

def dropHandle (r : Rehearsal App) (handle : Nat) : Rehearsal App :=
  { r with handles := r.handles.set handle false }.settle

/-- The heartbeat clock moves on in one jump. -/
def advance (r : Rehearsal App) (length : Duration) : Rehearsal App :=
  { r with timer := ⟨r.timer.nanos + length.nanos⟩ }.settle

def modifyClient (r : Rehearsal App) (f : Client App → Client App) : Rehearsal App :=
  { r with client := f r.client }.settle

def modifyAuthority (r : Rehearsal App) (f : PreparedAuthority → PreparedAuthority) : Rehearsal App :=
  { r with authority := f r.authority }.settle

end Rehearsal

end Entitlement
