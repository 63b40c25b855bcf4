import Entitlement.Config
import Entitlement.Config.File
import Entitlement.Config.Layer

/-!
Loading a configuration: the settings of a file, the environment over them, the defaults below. Every
setting is read for its type before a missing one is noticed, and the result must fit.
-/

namespace Entitlement.ClientConfig

/-- Reads the setting of a key, if there is one. -/
def setting? {α : Type} (settings : Settings) (key : String)
    (read : Setting → Except (Misplaced × Wanted) α) : Except ConfigError (Option α) :=
  match settings.find? key with
  | none => .ok none
  | some found =>
    match read found.value with
    | .ok a => .ok (some a)
    | .error (misplaced, wanted) => .error (.wrongType misplaced wanted key found.origin)

def require {α : Type} (key : String) : Option α → Except ConfigError α
  | some a => .ok a
  | none => .error (.missing key)

/-- The configuration that settings spell, fit or not. -/
def ofSettings (settings : Settings) : Except ConfigError ClientConfig := do
  let authorityUrl ← setting? settings "authority_url" Setting.asText?
  let productId ← setting? settings "product_id" Setting.asText?
  let productVersion ← setting? settings "product_version" Setting.asText?
  let cacheTtlSecs ← setting? settings "cache_ttl_secs" Setting.asUInt64?
  let requestTimeoutMs ← setting? settings "request_timeout_ms" Setting.asUInt64?
  let heartbeatIntervalSecs ← setting? settings "heartbeat_interval_secs" Setting.asUInt64?
  let rateWindowMs ← setting? settings "rate_window_ms" Setting.asUInt64?
  let failOpen ← setting? settings "fail_open" Setting.asBool?
  let given : ClientConfig :=
    { authorityUrl := ← require "authority_url" authorityUrl
      productId := ← require "product_id" productId
      productVersion := ← require "product_version" productVersion }
  return { given with
    cacheTtlSecs := cacheTtlSecs.getD given.cacheTtlSecs
    requestTimeoutMs := requestTimeoutMs.getD given.requestTimeoutMs
    heartbeatIntervalSecs := heartbeatIntervalSecs.getD given.heartbeatIntervalSecs
    rateWindowMs := rateWindowMs.getD given.rateWindowMs
    failOpen := failOpen.getD given.failOpen }

/-- The configuration of settings that are laid over each other, if it fits. -/
def ofLayers (settings : Settings) (environment : List (String × String)) :
    Except ConfigError ClientConfig := do
  let config ← ofSettings (settings.withEnvironment environment)
  config.validate
  return config

def ofEnvironment (environment : List (String × String)) : Except ConfigError ClientConfig :=
  ofLayers .empty environment

/-- The settings of the file that a name means. -/
def readFile (files : Directory) (name : String) : Except ConfigError Settings :=
  match (FileFormat.find? files name).bind fun (format, text) => format.entries? text with
  | some entries => .ok (Settings.withEntries .empty (.file name) entries)
  | none => .error (.unreadable name)

def ofFile (files : Directory) (name : String) (environment : List (String × String)) :
    Except ConfigError ClientConfig := do
  ofLayers (← readFile files name) environment

end Entitlement.ClientConfig
