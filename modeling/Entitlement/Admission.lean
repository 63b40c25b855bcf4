import Entitlement.Ledger
import Entitlement.Snapshot

/-!
The four admission rules. Each looks at its own part of a snapshot and nothing else: consuming at
the flag, the reason and the quota, the others at one limit each. A missing rate limit admits; a
missing capacity or concurrency limit denies. Every denial carries a reason.
-/

namespace Entitlement

inductive DenialReason
  /-- The authority said so, in its own words. -/
  | authority (text : String)
  | rateExceeded
  | capacityExceeded
  | noCapacityLimit
  | concurrencyExceeded
  | noConcurrencyLimit
  deriving DecidableEq, Repr, Inhabited

namespace DenialReason

/-- A short text that is never empty. -/
def code : DenialReason → String
  | authority text => if text.isEmpty then "not_admitted" else text
  | rateExceeded => "rate_exceeded"
  | capacityExceeded => "capacity_exceeded"
  | noCapacityLimit => "no_capacity_limit"
  | concurrencyExceeded => "concurrency_exceeded"
  | noConcurrencyLimit => "no_concurrency_limit"

instance : ToString DenialReason := ⟨code⟩

def ofSnapshot (s : Snapshot) : DenialReason := .authority (s.reason.getD "")

end DenialReason

structure ConsumeOutcome where
  admitted : Bool
  remaining : UInt64
  reason : Option DenialReason
  deriving DecidableEq, Repr, Inhabited

structure RateOutcome where
  admitted : Bool
  maxRate : Float
  currentRate : Float
  reason : Option DenialReason
  deriving Inhabited

structure CapacityOutcome where
  admitted : Bool
  maxCapacity : UInt64
  currentUsed : UInt64
  reason : Option DenialReason
  deriving DecidableEq, Repr, Inhabited

inductive SlotOutcome
  | acquired (guard : GuardId) (key : SlotKey)
  | denied (maxConcurrency inUse : UInt64) (reason : DenialReason)
  deriving DecidableEq, Repr, Inhabited

def SlotOutcome.isAcquired : SlotOutcome → Bool
  | acquired .. => true
  | denied .. => false

def SlotOutcome.reason : SlotOutcome → Option DenialReason
  | acquired .. => none
  | denied _ _ reason => some reason

namespace Snapshot

/-- The flag alone decides. What is reported as left takes the amount off when it is admitted. -/
def consume (s : Snapshot) (amount : UInt64) : ConsumeOutcome :=
  if s.admitted then ⟨true, Saturating.subUInt64 s.remainingQuota amount, none⟩
  else ⟨false, s.remainingQuota, some (.ofSnapshot s)⟩

def checkRate (s : Snapshot) (current : Float) : RateOutcome :=
  match s.rateLimit with
  | none => ⟨true, 0, current, none⟩
  | some max =>
    if current ≤ max then ⟨true, max, current, none⟩
    else ⟨false, max, current, some .rateExceeded⟩

def checkCapacity (s : Snapshot) (used : UInt64) : CapacityOutcome :=
  match s.capacityLimit with
  | none => ⟨false, 0, used, some .noCapacityLimit⟩
  | some max =>
    if used < max then ⟨true, max, used, none⟩
    else ⟨false, max, used, some .capacityExceeded⟩

/-- Takes a slot under `k` if the limit allows one more. -/
def acquireSlot (s : Snapshot) (l : Ledger) (k : SlotKey) : SlotOutcome × Ledger :=
  match s.concurrencyLimit with
  | none => (.denied 0 (l.inUse k) .noConcurrencyLimit, l)
  | some max =>
    match l.tryAcquire k max with
    | .ok (guard, l') => (.acquired guard k, l')
    | .error e => (.denied max e.inUse .concurrencyExceeded, l)

end Snapshot

end Entitlement
