import Entitlement.Time

/-!
The loop that sends signs of life. Its timer counts whole milliseconds: a moment to wait for is rounded
up, the time that has come is rounded down. So even the moment of the start has to be waited for, if it
lies between two milliseconds. A beat that comes late pushes the following ones back.
-/

namespace Entitlement

inductive HeartbeatLoop
  /-- No loop has been started, or it was stopped. -/
  | off
  /-- The loop waits once for the moment at which it was started, and then begins to count. -/
  | starting (due : Instant)
  | waiting (due : Instant)
  /-- A sign of life is on its way; the next one is due then. -/
  | beating (next : Instant)
  /-- The loop broke down. -/
  | broken
  deriving DecidableEq, Repr, Inhabited

namespace HeartbeatLoop

def isRunning : HeartbeatLoop → Bool
  | starting _ | waiting _ | beating _ => true
  | off | broken => false

def nanosPerMilli : Nat := 1000000

/-- The timer has reached `due`. -/
def isDue (due now : Instant) : Bool :=
  (due.nanos + (nanosPerMilli - 1)) / nanosPerMilli ≤ now.nanos / nanosPerMilli

/-- Beats up to this late do not count as late. -/
def tolerance : Nat := 5 * nanosPerMilli

/-- The first count of milliseconds that the timer cannot hold. -/
def countEnd : Nat := UInt64.size

/-- How far the timer looks ahead if it cannot count that far: thirty years. -/
def farAhead : Duration := .ofSeconds (30 * 365 * 86400)

/-- When the beat after the one due at `due` comes, if that is sent at `now`. A late one may be beyond
what the clock can show. -/
def nextDue? (period : Duration) (due now : Instant) : Option Instant :=
  let next := due.nanos + period.nanos
  if due.nanos + tolerance < now.nanos then now.add? period
  else some ⟨if next / nanosPerMilli < countEnd then next else now.nanos + farAhead.nanos⟩

/-- A running loop goes on as it is; otherwise one begins. -/
def start (loop : HeartbeatLoop) (now : Instant) : HeartbeatLoop :=
  if loop.isRunning then loop else starting now

/-- Whether a sign of life is to be sent now, and how the loop goes on. -/
def tick (loop : HeartbeatLoop) (period : Duration) (now : Instant) : Bool × HeartbeatLoop :=
  match loop with
  | starting due =>
    (false, if isDue due now then (nextDue? period due now).elim broken waiting else loop)
  | waiting due =>
    if isDue due now then (nextDue? period due now).elim (false, broken) (true, beating ·)
    else (false, loop)
  | _ => (false, loop)

/-- The authority has replied, whatever it said. -/
def reply : HeartbeatLoop → HeartbeatLoop
  | beating next => waiting next
  | loop => loop

/-- What the loop was doing has broken it. -/
def breakDown (loop : HeartbeatLoop) : HeartbeatLoop := if loop.isRunning then broken else loop

end HeartbeatLoop

end Entitlement
