import Entitlement.ClientError

/-!
What to do when a call has not decided. A usage report that failed comes after the decision, which
was to admit.
-/

namespace Entitlement

inductive FailurePolicy
  | opened
  | closed
  deriving DecidableEq, Repr

namespace FailurePolicy

instance : Inhabited FailurePolicy := ⟨closed⟩

def ofFailOpen (failOpen : Bool) : FailurePolicy := if failOpen then opened else closed

/-- Whether to go on after a call with this result, given what its outcome says. -/
def admitOr {α : Type} (p : FailurePolicy) (result : Except ClientError α) (admitted : α → Bool) : Bool :=
  match result with
  | .ok a => admitted a
  | .error (.usageNotRecorded ..) => true
  | .error _ => p = opened

end FailurePolicy

end Entitlement
