import Entitlement.Client.Event
import Entitlement.Proofs.History

/-!
Histories of a client: that it was built, and what has happened to it since.
-/

namespace Entitlement

structure ClientHistory (App : Type) extends History (@Client.step App) where
  config : ClientConfig
  authenticator : Authenticator
  built : Client.build (some config) authenticator = .ok start

namespace Client

variable {App : Type}

theorem build_ok {config : ClientConfig} {a : Authenticator} {c : Client App}
    (built : build (some config) a = .ok c) :
    c = { config, identity := a.identity, publicKey := a.publicKey, cache := .empty config.cacheTtl,
          window := ⟨config.rateWindow, []⟩ } := by
  simp only [build] at built
  split at built
  · cases built
  · cases built
  · next made =>
    rw [RateWindow.ofLength_ok made] at built
    exact (Except.ok.inj built).symm

end Client

namespace ClientHistory

variable {App : Type}

/-- A new client has no queries, no calls and an empty cache. -/
theorem start_blank (h : ClientHistory App) :
    h.start.queries = .empty ∧ h.start.calls = .empty ∧ h.start.cache = .empty h.config.cacheTtl := by
  rw [Client.build_ok h.built]
  exact ⟨rfl, rfl, rfl⟩

/-! ### Histories of a plain client -/

def plainConfig : ClientConfig where
  authorityUrl := "http://authority.test"
  productId := "suite"
  productVersion := "1.0.0"

/-- Somebody who never gets to sign anything. -/
def plainAuthenticator : Authenticator where
  identity := "instance"
  publicKey := "key"
  authenticate _ _ _ _ := .error .clockBeforeEpoch

def plainClient (App : Type) : Client App where
  config := plainConfig
  identity := plainAuthenticator.identity
  publicKey := plainAuthenticator.publicKey
  cache := .empty plainConfig.cacheTtl
  window := ⟨plainConfig.rateWindow, []⟩

theorem build_plain (App : Type) :
    Client.build (some plainConfig) plainAuthenticator = .ok (plainClient App) := by
  have valid : plainConfig.validate = .ok () := by
    have fits : plainConfig.validate.toOption = some () := by decide +kernel
    cases validated : plainConfig.validate with
    | ok => rfl
    | error e =>
      rw [validated] at fits
      cases fits
  simp only [Client.build, valid]
  rfl

def ofEvents (events : List (ClientEvent App)) : ClientHistory App where
  config := plainConfig
  authenticator := plainAuthenticator
  start := plainClient App
  built := build_plain App
  events := events

end ClientHistory

end Entitlement
