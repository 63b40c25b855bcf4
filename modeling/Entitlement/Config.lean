import Entitlement.Config.Error
import Entitlement.FailurePolicy
import Entitlement.Text.Blank
import Entitlement.Time
import Entitlement.Url

/-!
The settings of a client. Three of them must be given; the others have defaults. A configuration
fits if the authority has a web address, nothing required is blank and no length of time is zero.
-/

namespace Entitlement

structure ClientConfig where
  authorityUrl : String
  productId : String
  productVersion : String
  cacheTtlSecs : UInt64 := 10
  requestTimeoutMs : UInt64 := 5000
  heartbeatIntervalSecs : UInt64 := 5
  rateWindowMs : UInt64 := 1000
  failOpen : Bool := false
  deriving DecidableEq, Repr, Inhabited

namespace ClientConfig

def cacheTtl (c : ClientConfig) : Duration := .ofSeconds c.cacheTtlSecs

def requestTimeout (c : ClientConfig) : Duration := .ofMilliseconds c.requestTimeoutMs

def heartbeatInterval (c : ClientConfig) : Duration := .ofSeconds c.heartbeatIntervalSecs

def rateWindow (c : ClientConfig) : Duration := .ofMilliseconds c.rateWindowMs

def failurePolicy (c : ClientConfig) : FailurePolicy := .ofFailOpen c.failOpen

def checkUrl (text : String) : Except ConfigError Unit :=
  match Url.parse text with
  | .error e => .error (.invalidUrl e)
  | .ok url =>
    if url.scheme = "http".toList ∨ url.scheme = "https".toList then .ok ()
    else .error (.schemeNotAllowed (String.ofList url.scheme))

def checkNotBlank (key text : String) : Except ConfigError Unit :=
  if Text.isBlankText text then .error (.required key) else .ok ()

def checkPositive (key : String) (n : UInt64) : Except ConfigError Unit :=
  if n = 0 then .error (.notPositive key) else .ok ()

/-- The first fault, in the order of the settings. -/
def validate (c : ClientConfig) : Except ConfigError Unit := do
  checkNotBlank "authority_url" c.authorityUrl
  checkUrl c.authorityUrl
  checkNotBlank "product_id" c.productId
  checkNotBlank "product_version" c.productVersion
  checkPositive "cache_ttl_secs" c.cacheTtlSecs
  checkPositive "request_timeout_ms" c.requestTimeoutMs
  checkPositive "heartbeat_interval_secs" c.heartbeatIntervalSecs
  checkPositive "rate_window_ms" c.rateWindowMs

end ClientConfig

end Entitlement
