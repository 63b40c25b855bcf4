import Entitlement.CallContext
import Entitlement.LimitError
import Entitlement.RateWindow

/-!
Measurements that only the application can make. It hands over a bundle of functions, once; each is
read against the state `App` of the application at the moment of the reading. The capacity counter
is required, the rate and the consumption amount have a fallback.
-/

namespace Entitlement

/-- The functions on offer, any of them missing. -/
structure MeasurementProviders (App : Type) where
  consumptionAmount : Option (CallContext → UInt64) := none
  rate : Option (App → Float) := none
  capacityCounter : Option (App → UInt64) := none

/-- Where the rate comes from: the application, or the client's own window. -/
inductive RateSource (App : Type)
  | external (read : App → Float)
  | internal

/-- A bundle that has been found complete. -/
structure RegisteredProviders (App : Type) where
  consumptionAmount : Option (CallContext → UInt64)
  rate : RateSource App
  capacityCounter : App → UInt64

variable {App : Type}

/-- Without a function for it every call consumes one unit. -/
def standardConsumption : UInt64 := 1

def MeasurementProviders.validate (p : MeasurementProviders App) :
    Except LimitError (RegisteredProviders App) :=
  match p.capacityCounter with
  | none => .error .missingCapacityCounter
  | some counter =>
    .ok ⟨p.consumptionAmount, p.rate.elim .internal .external, counter⟩

/-- Which functions are there. -/
def MeasurementProviders.shown (p : MeasurementProviders App) : String :=
  Text.shown "MeasurementProviders"
    [("consumption_amount", Text.shownBool p.consumptionAmount.isSome),
     ("rate", Text.shownBool p.rate.isSome),
     ("capacity_counter", Text.shownBool p.capacityCounter.isSome)]

namespace RateSource

def shown : RateSource App → String
  | external _ => "External"
  | internal => "Internal"

def isInternal : RateSource App → Bool
  | external _ => false
  | internal => true

/-- Reading the window also drops from it what has fallen out. -/
def currentRate (r : RateSource App) (app : App) (w : RateWindow) (now : Instant) :
    Float × RateWindow :=
  match r with
  | external read => (read app, w)
  | internal => w.currentRate now

end RateSource

namespace RegisteredProviders

def shown (p : RegisteredProviders App) : String :=
  Text.shown "RegisteredProviders"
    [("consumption_amount", Text.shownBool p.consumptionAmount.isSome), ("rate", p.rate.shown)] true

def amount (p : RegisteredProviders App) (c : CallContext) : UInt64 :=
  match p.consumptionAmount with
  | some f => f c
  | none => standardConsumption

def currentRate (p : RegisteredProviders App) : App → RateWindow → Instant → Float × RateWindow :=
  p.rate.currentRate

def capacityUsage (p : RegisteredProviders App) (app : App) : UInt64 := p.capacityCounter app

end RegisteredProviders

/-- The place for at most one bundle. -/
structure ProviderRegistry (App : Type) where
  installed : Option (RegisteredProviders App) := none

namespace ProviderRegistry

def isRegistered (r : ProviderRegistry App) : Bool := r.installed.isSome

/-- An incomplete bundle is refused as such even where another one is installed. -/
def register (r : ProviderRegistry App) (p : MeasurementProviders App) :
    Except LimitError (ProviderRegistry App) :=
  match p.validate, r.installed with
  | .error e, _ => .error e
  | .ok _, some _ => .error .providersAlreadyRegistered
  | .ok p, none => .ok ⟨some p⟩

def amount (r : ProviderRegistry App) (c : CallContext) : UInt64 :=
  match r.installed with
  | some p => p.amount c
  | none => standardConsumption

def currentRate (r : ProviderRegistry App) (app : App) (w : RateWindow) (now : Instant) :
    Float × RateWindow :=
  match r.installed with
  | some p => p.currentRate app w now
  | none => w.currentRate now

/-- There is no fallback for a missing counter. -/
def capacityUsage (r : ProviderRegistry App) (app : App) : Except LimitError UInt64 :=
  match r.installed with
  | some p => .ok (p.capacityUsage app)
  | none => .error .providersNotRegistered

def clear (_ : ProviderRegistry App) : ProviderRegistry App := {}

end ProviderRegistry

end Entitlement
