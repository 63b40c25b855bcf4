import Entitlement.LimitError
import Entitlement.Number.Decimal
import Entitlement.Text.Quoted

/-!
Everything that a call of the client can fail with.
-/

namespace Entitlement

/-- Why the task that was asking the authority has no answer. -/
inductive TaskFailure
  /-- It said so. -/
  | reported (text : String)
  /-- It broke down with a message. -/
  | panicked (message : String)
  deriving DecidableEq, Repr, Inhabited

def TaskFailure.message : TaskFailure → String
  | reported text => text
  | panicked message => "task panicked with message " ++ Text.quoted message

inductive ClientError
  | config (text : String)
  | limit (e : LimitError)
  | network (text : String)
  | timeout
  /-- The authority answered with another status than success. -/
  | authority (status : Nat) (body : String)
  | invalidResponse (text : String)
  | auth (text : String)
  /-- Use was admitted, but the report of it failed. -/
  | usageNotRecorded (remaining : UInt64) (source : ClientError)
  | taskFailed (cause : TaskFailure)
  | closed
  deriving DecidableEq, Repr, Inhabited

namespace ClientError

def message : ClientError → String
  | config text => "Configuration error: " ++ text
  | limit e => e.message
  | network text => "Network error: " ++ text
  | timeout => "Timeout"
  | authority status body => "Authority returned status " ++ toString status ++ ": " ++ body
  | invalidResponse text => "Invalid response from authority: " ++ text
  | auth text => "Authentication error: " ++ text
  | usageNotRecorded remaining source =>
    "Usage was admitted but not recorded (estimated remaining " ++ Decimal.ofUInt64 remaining ++
      "): " ++ source.message
  | taskFailed cause => "Refresh task failed: " ++ cause.message
  | closed => "Client closed"

/-- The request may or may not have reached the authority, or its answer was no answer. -/
def isTransport : ClientError → Bool
  | network _ | timeout | authority .. | invalidResponse _ => true
  | _ => false

/-- The texts of the causes, the nearest first. -/
def sources : ClientError → List String
  | usageNotRecorded _ source => source.message :: source.sources
  | _ => []

end ClientError

end Entitlement
