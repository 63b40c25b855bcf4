import Entitlement.Ledger

/-!
What is done with a ledger and with its guards, in any order. Clones of a ledger share its state, so that what is
done with any of them is done with the one ledger.
-/

namespace Entitlement

inductive LedgerEvent
  | tryAcquire (key : SlotKey) (max : UInt64)
  | release (guard : GuardId)
  | drop (guard : GuardId)
  | clear
  deriving DecidableEq, Repr

namespace Ledger

/-- A denial leaves the ledger as it is. -/
def step (l : Ledger) : LedgerEvent → Ledger
  | .tryAcquire k max =>
    match l.tryAcquire k max with
    | .ok (_, l) => l
    | .error _ => l
  | .release g => l.release g
  | .drop g => l.drop g
  | .clear => l.clear

end Ledger

end Entitlement
