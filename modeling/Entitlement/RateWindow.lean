import Entitlement.LimitError
import Entitlement.Time

/-!
A sliding window of events. The events are kept in order of time, however they arrive, and an event
leaves the front once a reading finds it older than the window. An event exactly as old as the
window still counts.
-/

namespace Entitlement

structure RateWindow where
  length : Duration
  events : List Instant
  deriving Inhabited

namespace RateWindow

def standardLength : Duration := .ofSeconds 1

def standard : RateWindow := ⟨standardLength, []⟩

/-- A window must have some length. -/
def ofLength (length : Duration) : Except LimitError RateWindow :=
  if length.isZero then .error .invalidWindow else .ok ⟨length, []⟩

theorem ofLength_ok {length : Duration} {w : RateWindow} (made : ofLength length = .ok w) : w = ⟨length, []⟩ := by
  unfold ofLength at made
  split at made
  · cases made
  · exact (Except.ok.inj made).symm

/-- `e` has fallen out of the window at `now`. -/
def expired (w : RateWindow) (now e : Instant) : Bool := w.length.nanos < (now.since e).nanos

def prune (w : RateWindow) (now : Instant) : RateWindow :=
  { w with events := w.events.dropWhile (w.expired now) }

theorem prune_prune (w : RateWindow) (now : Instant) : (w.prune now).prune now = w.prune now := by
  have dropped (l : List Instant) :
      (l.dropWhile (w.expired now)).dropWhile (w.expired now) = l.dropWhile (w.expired now) := by
    induction l with
    | nil => rfl
    | cons e l ih => by_cases old : w.expired now e <;> simp [old, ih]
  exact congrArg (fun events => { w with events }) (dropped w.events)

/-- Behind every event that is not later. -/
def insertEvent (now : Instant) (events : List Instant) : List Instant :=
  events.takeWhile (·.nanos ≤ now.nanos) ++ now :: events.dropWhile (·.nanos ≤ now.nanos)

def recordEvent (w : RateWindow) (now : Instant) : RateWindow :=
  prune { w with events := insertEvent now w.events } now

/-- Events up to `now`, per second of window. -/
def rateAt (w : RateWindow) (now : Instant) : Float :=
  Float.ofNat (w.events.countP (·.nanos ≤ now.nanos)) / w.length.toFloat

/-- Reads the rate; the reading itself drops what has fallen out. -/
def currentRate (w : RateWindow) (now : Instant) : Float × RateWindow :=
  ((w.prune now).rateAt now, w.prune now)

def reset (w : RateWindow) : RateWindow := { w with events := [] }

def size (w : RateWindow) : Nat := w.events.length

end RateWindow

end Entitlement
