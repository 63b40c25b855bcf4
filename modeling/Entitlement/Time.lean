/-!
Time as the library counts it: lengths and readings of one clock, both in whole nanoseconds. The
clock ends, so an instant plus a length need not be an instant.
-/

namespace Entitlement

def nanosPerSecond : Nat := 1000000000

/-- A length of time. -/
structure Duration where
  nanos : Nat
  deriving DecidableEq, Repr, Inhabited

namespace Duration

def ofSeconds (s : UInt64) : Duration := ⟨s.toNat * nanosPerSecond⟩

def ofMilliseconds (ms : UInt64) : Duration := ⟨ms.toNat * 1000000⟩

def isZero (d : Duration) : Bool := d.nanos == 0

def wholeSeconds (d : Duration) : Nat := d.nanos / nanosPerSecond

def subsecNanos (d : Duration) : Nat := d.nanos % nanosPerSecond

/-- Whole seconds and the fraction are converted apart and then added. -/
def toFloat (d : Duration) : Float :=
  Float.ofNat d.wholeSeconds + Float.ofNat d.subsecNanos / Float.ofNat nanosPerSecond

end Duration

/-- A reading of the clock. -/
structure Instant where
  nanos : Nat
  deriving DecidableEq, Repr, Inhabited

namespace Instant

/-- The first reading that the clock cannot show. It counts seconds in 63 bits and has shown one
second at least before the first reading taken. -/
def clockEnd : Nat := (Nat.pow 2 63 - 1) * nanosPerSecond

/-- The instant `d` after `t`, if the clock reaches it. -/
def add? (t : Instant) (d : Duration) : Option Instant :=
  if t.nanos + d.nanos < clockEnd then some ⟨t.nanos + d.nanos⟩ else none

/-- How long before `t` the instant `e` was; nothing if it is not yet past. -/
def since (t e : Instant) : Duration := ⟨t.nanos - e.nanos⟩

end Instant

end Entitlement
