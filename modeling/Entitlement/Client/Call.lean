import Entitlement.Admission
import Entitlement.CallContext
import Entitlement.ClientError

/-!
Calls of a client, and how far each has come. A call that needs a snapshot waits for a query, goes on
when the query has ended, and may then wait once more, for its usage report.
-/

namespace Entitlement

abbrev QueryId := Nat

abbrev CallId := Nat

/-- How the query of a key stands. -/
inductive QueryStatus
  /-- It has been begun, but the authority has not been asked yet. -/
  | queued
  | asked
  | answered (result : Except ClientError Snapshot)
  | panicked (message : String)
  | aborted

namespace QueryStatus

/-- What those get who wait for the query, once it has ended. -/
def result? : QueryStatus → Option (Except ClientError Snapshot)
  | queued | asked => none
  | answered result => some result
  | panicked message => some (.error (.taskFailed (.panicked message)))
  | aborted => some (.error .closed)

def isFinished (s : QueryStatus) : Bool := s.result?.isSome

/-- A query that has ended cannot be aborted any more. -/
def abort (s : QueryStatus) : QueryStatus := if s.isFinished then s else aborted

end QueryStatus

structure Query where
  key : CheckKey
  status : QueryStatus

/-- What an application can ask of its client. -/
inductive CallRequest
  | check (key : CheckKey)
  | report (key : CheckKey) (amount : UInt64)
  | consume (key : CheckKey) (amount : UInt64)
  /-- Of the product, as much as the application computes. -/
  | consumeFor (context : CallContext)
  | checkRate (key : CheckKey)
  | checkCapacity (key : CheckKey) (used : UInt64)
  /-- The same, with what the application counts. -/
  | checkCapacityCounted (key : CheckKey)
  | acquire (key : CheckKey)
  | register
  deriving DecidableEq, Repr, Inhabited

namespace CallRequest

/-- The key that a call is about. -/
def key? : CallRequest → Option CheckKey
  | check key | report key _ | consume key _ | checkRate key | checkCapacity key _
  | checkCapacityCounted key | acquire key => some key
  | consumeFor _ => some .product
  | register => none

end CallRequest

/-- What a call is going to do with the snapshot that it waits for. -/
inductive Purpose
  | show
  | consume (amount : UInt64)
  | rate (current : Float)
  | capacity (used : UInt64)
  | slot
  deriving Inhabited

inductive CallValue
  | snapshot (s : Snapshot)
  | done
  | consumed (o : ConsumeOutcome)
  | rated (o : RateOutcome)
  | measured (o : CapacityOutcome)
  | slot (o : SlotOutcome)

abbrev CallResult := Except ClientError CallValue

inductive Phase
  | waiting (query : QueryId) (key : CheckKey) (purpose : Purpose)
  /-- A usage report is on its way, for an outcome that admitted or just so. -/
  | reporting (outcome : Option ConsumeOutcome)
  | registering
  | finished (result : CallResult)

namespace Phase

def result? : Phase → Option CallResult
  | finished result => some result
  | _ => none

/-- The slot that the call has taken. -/
def guard? : Phase → Option GuardId
  | finished (.ok (.slot (.acquired guard _))) => some guard
  | _ => none

end Phase

structure Call where
  request : CallRequest
  phase : Phase

end Entitlement
