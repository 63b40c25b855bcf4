import Entitlement.Saturating

/-!
What the authority granted at one moment: whether use is admitted, how much quota is left, and the
three limits. A limit that is present but not above zero counts as not configured.
-/

namespace Entitlement

/-- Units granted and used up to the next reset. -/
structure Quota where
  limit : Int64
  used : Int64
  remaining : Int64
  resetAt : Int64
  deriving DecidableEq, Repr, Inhabited

namespace Quota

/-- What is left is the difference, nothing where more was used than granted. -/
def of (limit used resetAt : Int64) : Quota :=
  let left := Saturating.subInt64 limit used
  ⟨limit, used, if left < 0 then 0 else left, resetAt⟩

def remainingUnits (q : Quota) : UInt64 := Saturating.toUInt64 q.remaining

end Quota

structure Snapshot where
  admitted : Bool := false
  reason : Option String := none
  quota : Option Quota := none
  maxCapacity : Option UInt64 := none
  maxRate : Option Float := none
  maxConcurrency : Option UInt64 := none
  deriving Inhabited

namespace Snapshot

def admitting : Snapshot := { admitted := true }

def denied (reason : String) : Snapshot := { reason := some reason }

def withQuota (s : Snapshot) (q : Quota) : Snapshot := { s with quota := some q }

def withMaxCapacity (s : Snapshot) (n : UInt64) : Snapshot := { s with maxCapacity := some n }

def withMaxRate (s : Snapshot) (r : Float) : Snapshot := { s with maxRate := some r }

def withMaxConcurrency (s : Snapshot) (n : UInt64) : Snapshot := { s with maxConcurrency := some n }

def capacityLimit (s : Snapshot) : Option UInt64 := s.maxCapacity.filter (0 < ·)

/-- A rate that compares with nothing is no limit either. -/
def rateLimit (s : Snapshot) : Option Float := s.maxRate.filter (0 < ·)

def concurrencyLimit (s : Snapshot) : Option UInt64 := s.maxConcurrency.filter (0 < ·)

/-- Without a quota nothing is known to be left. -/
def remainingQuota (s : Snapshot) : UInt64 := (s.quota.map Quota.remainingUnits).getD 0

end Snapshot

end Entitlement
