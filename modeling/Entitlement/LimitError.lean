/-!
What can go wrong in the local half of the library, apart from the authority.
-/

namespace Entitlement

inductive LimitError
  | missingCapacityCounter
  | providersAlreadyRegistered
  | providersNotRegistered
  | invalidWindow
  deriving DecidableEq, Repr, Inhabited

def LimitError.message : LimitError → String
  | .missingCapacityCounter => "capacity counter provider is required"
  | .providersAlreadyRegistered => "measurement providers are already registered"
  | .providersNotRegistered => "measurement providers are not registered"
  | .invalidWindow => "rate window must be non-zero"

end Entitlement
