import Entitlement.Proofs.Config.Layers

/-!
The fields of a configuration, taken one by one. A configuration is made from settings field by field: each is the
setting under its own key, read as what the field holds, or the default (`ofSettings_eq_ok_iff`).
-/

namespace Entitlement.ClientConfig

inductive TextSetting
  | authorityUrl
  | productId
  | productVersion
  deriving DecidableEq, Repr

namespace TextSetting

def key : TextSetting → String
  | authorityUrl => "authority_url"
  | productId => "product_id"
  | productVersion => "product_version"

/-- The environment variable for the setting. -/
def variableName : TextSetting → String
  | authorityUrl => "LICENSEGATE_AUTHORITY_URL"
  | productId => "LICENSEGATE_PRODUCT_ID"
  | productVersion => "LICENSEGATE_PRODUCT_VERSION"

theorem variableName_key (s : TextSetting) :
    Settings.keyOfVariable? s.variableName = some s.key ∧ Settings.splitName s.key = (s.key, []) ∧
      Text.lower s.key = s.key := by
  cases s <;> decide +kernel

end TextSetting

def text (c : ClientConfig) : TextSetting → String
  | .authorityUrl => c.authorityUrl
  | .productId => c.productId
  | .productVersion => c.productVersion

inductive TimeSetting
  | cacheTtl
  | requestTimeout
  | heartbeatInterval
  | rateWindow
  deriving DecidableEq, Repr

namespace TimeSetting

def key : TimeSetting → String
  | cacheTtl => "cache_ttl_secs"
  | requestTimeout => "request_timeout_ms"
  | heartbeatInterval => "heartbeat_interval_secs"
  | rateWindow => "rate_window_ms"

/-- The environment variable for the setting. -/
def variableName : TimeSetting → String
  | cacheTtl => "LICENSEGATE_CACHE_TTL_SECS"
  | requestTimeout => "LICENSEGATE_REQUEST_TIMEOUT_MS"
  | heartbeatInterval => "LICENSEGATE_HEARTBEAT_INTERVAL_SECS"
  | rateWindow => "LICENSEGATE_RATE_WINDOW_MS"

def standard : TimeSetting → UInt64
  | cacheTtl => 10
  | requestTimeout => 5000
  | heartbeatInterval => 5
  | rateWindow => 1000

end TimeSetting

def time (c : ClientConfig) : TimeSetting → UInt64
  | .cacheTtl => c.cacheTtlSecs
  | .requestTimeout => c.requestTimeoutMs
  | .heartbeatInterval => c.heartbeatIntervalSecs
  | .rateWindow => c.rateWindowMs

inductive Field
  | text (s : TextSetting)
  | time (s : TimeSetting)
  | failOpen
  deriving DecidableEq, Repr

namespace Field

abbrev Value : Field → Type
  | text _ => String
  | time _ => UInt64
  | failOpen => Bool

def key : Field → String
  | text s => s.key
  | time s => s.key
  | failOpen => "fail_open"

def variableName : Field → String
  | text s => s.variableName
  | time s => s.variableName
  | failOpen => "LICENSEGATE_FAIL_OPEN"

/-- What a setting counts for in the field. -/
def read : (f : Field) → Setting → Except (Misplaced × Wanted) f.Value
  | text _ => Setting.asText?
  | time _ => Setting.asUInt64?
  | failOpen => Setting.asBool?

def standard? : (f : Field) → Option f.Value
  | text _ => none
  | time s => some s.standard
  | failOpen => some false

theorem variableName_key (f : Field) :
    Settings.keyOfVariable? f.variableName = some f.key ∧ Settings.splitName f.key = (f.key, []) ∧
      Text.lower f.key = f.key := by
  rcases f with s | s | _
  · exact s.variableName_key
  · cases s <;> decide +kernel
  · decide +kernel

end Field

def value (c : ClientConfig) : (f : Field) → f.Value
  | .text s => c.text s
  | .time s => c.time s
  | .failOpen => c.failOpen

theorem setting?_of_find? {α : Type} {settings : Settings} {key : String}
    {read : Setting → Except (Misplaced × Wanted) α} {found : FoundSetting} {a : α}
    (present : settings.find? key = some found) (reads : read found.value = .ok a) :
    setting? settings key read = .ok (some a) := by
  rw [setting?, present]
  dsimp only
  rw [reads]

theorem setting?_of_none {α : Type} {settings : Settings} {key : String}
    {read : Setting → Except (Misplaced × Wanted) α} (absent : settings.find? key = none) :
    setting? settings key read = .ok none := by
  rw [setting?, absent]

theorem setting?_some {α : Type} {settings : Settings} {key : String}
    {read : Setting → Except (Misplaced × Wanted) α} {a : α} (got : setting? settings key read = .ok (some a)) :
    ∃ found, settings.find? key = some found ∧ read found.value = .ok a := by
  unfold setting? at got
  split at got
  · cases got
  · next found present =>
    split at got
    · next reads =>
      cases got
      exact ⟨found, present, reads⟩
    · cases got

theorem require_eq_ok_iff {α : Type} {key : String} {given : Option α} {a : α} :
    require key given = .ok a ↔ given = some a := by
  cases given with
  | none => exact iff_of_false nofun nofun
  | some b => rw [require, Except.ok.injEq, Option.some.injEq]

theorem or_some {α : Type} {given : Option α} {standard a : α} :
    given.or (some standard) = some a ↔ given.getD standard = a := by
  cases given <;> exact Option.some_inj

/-- The fields are read independently of each other. -/
theorem ofSettings_eq_ok_iff {settings : Settings} {c : ClientConfig} :
    ofSettings settings = .ok c ↔
      ∀ f : Field, ∃ given, setting? settings f.key f.read = .ok given ∧ given.or f.standard? = some (c.value f) := by
  constructor
  · intro read
    unfold ofSettings at read
    obtain ⟨url, readUrl, read⟩ := ok_of_bind read
    obtain ⟨id, readId, read⟩ := ok_of_bind read
    obtain ⟨version, readVersion, read⟩ := ok_of_bind read
    obtain ⟨ttl, readTtl, read⟩ := ok_of_bind read
    obtain ⟨timeout, readTimeout, read⟩ := ok_of_bind read
    obtain ⟨interval, readInterval, read⟩ := ok_of_bind read
    obtain ⟨window, readWindow, read⟩ := ok_of_bind read
    obtain ⟨failOpen, readFailOpen, read⟩ := ok_of_bind read
    obtain ⟨_, hasUrl, read⟩ := ok_of_bind read
    obtain ⟨_, hasId, read⟩ := ok_of_bind read
    obtain ⟨_, hasVersion, read⟩ := ok_of_bind read
    cases require_eq_ok_iff.mp hasUrl
    cases require_eq_ok_iff.mp hasId
    cases require_eq_ok_iff.mp hasVersion
    cases read
    rintro ((_ | _ | _) | (_ | _ | _ | _) | _)
    · exact ⟨_, readUrl, rfl⟩
    · exact ⟨_, readId, rfl⟩
    · exact ⟨_, readVersion, rfl⟩
    · exact ⟨_, readTtl, or_some.mpr rfl⟩
    · exact ⟨_, readTimeout, or_some.mpr rfl⟩
    · exact ⟨_, readInterval, or_some.mpr rfl⟩
    · exact ⟨_, readWindow, or_some.mpr rfl⟩
    · exact ⟨_, readFailOpen, or_some.mpr rfl⟩
  · intro fields
    obtain ⟨_, readUrl, hasUrl⟩ := fields (.text .authorityUrl)
    obtain ⟨_, readId, hasId⟩ := fields (.text .productId)
    obtain ⟨_, readVersion, hasVersion⟩ := fields (.text .productVersion)
    obtain ⟨ttl, readTtl, hasTtl⟩ := fields (.time .cacheTtl)
    obtain ⟨timeout, readTimeout, hasTimeout⟩ := fields (.time .requestTimeout)
    obtain ⟨interval, readInterval, hasInterval⟩ := fields (.time .heartbeatInterval)
    obtain ⟨window, readWindow, hasWindow⟩ := fields (.time .rateWindow)
    obtain ⟨failOpen, readFailOpen, hasFailOpen⟩ := fields .failOpen
    rw [ofSettings]
    refine (bind_of_ok readUrl _).trans ((bind_of_ok readId _).trans ((bind_of_ok readVersion _).trans ?_))
    refine (bind_of_ok readTtl _).trans ((bind_of_ok readTimeout _).trans ((bind_of_ok readInterval _).trans ?_))
    refine (bind_of_ok readWindow _).trans ((bind_of_ok readFailOpen _).trans ?_)
    refine (bind_of_ok (require_eq_ok_iff.mpr (Option.or_none.symm.trans hasUrl)) _).trans ?_
    refine (bind_of_ok (require_eq_ok_iff.mpr (Option.or_none.symm.trans hasId)) _).trans ?_
    refine (bind_of_ok (require_eq_ok_iff.mpr (Option.or_none.symm.trans hasVersion)) _).trans ?_
    have same : (⟨c.authorityUrl, c.productId, c.productVersion, ttl.getD 10, timeout.getD 5000, interval.getD 5,
        window.getD 1000, failOpen.getD false⟩ : ClientConfig) = c := by
      rw [show ttl.getD 10 = c.cacheTtlSecs from or_some.mp hasTtl,
        show timeout.getD 5000 = c.requestTimeoutMs from or_some.mp hasTimeout,
        show interval.getD 5 = c.heartbeatIntervalSecs from or_some.mp hasInterval,
        show window.getD 1000 = c.rateWindowMs from or_some.mp hasWindow,
        show failOpen.getD false = c.failOpen from or_some.mp hasFailOpen]
    exact congrArg Except.ok same

theorem ofLayers_eq_ok_iff {settings : Settings} {environment : List (String × String)} {c : ClientConfig} :
    ofLayers settings environment = .ok c ↔
      ofSettings (settings.withEnvironment environment) = .ok c ∧ c.validate = .ok () := by
  constructor
  · intro layered
    obtain ⟨config, read, layered⟩ := ok_of_bind layered
    obtain ⟨_, valid, layered⟩ := ok_of_bind layered
    cases layered
    exact ⟨read, valid⟩
  · rintro ⟨read, valid⟩
    exact (bind_of_ok read _).trans (bind_of_ok valid _)

end Entitlement.ClientConfig
