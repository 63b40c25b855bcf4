import Entitlement.Proofs.History
import Entitlement.Proofs.Outcome
import Entitlement.Providers

/-!
What a registry of measurements has installed. Bundles are offered and the registry is cleared in any order. The first
complete bundle since the last clear stands until the next one; every reading is its own, or the fallback for what it
does not measure, and the capacity has no fallback (`first_complete_stands`).
-/

namespace Entitlement

inductive RegistryEvent (App : Type)
  | register (p : MeasurementProviders App)
  | clear

variable {App : Type}

namespace ProviderRegistry

variable {r : ProviderRegistry App} {p : MeasurementProviders App}

/-- A bundle that is refused leaves the registry as it is. -/
def step (r : ProviderRegistry App) : RegistryEvent App → ProviderRegistry App
  | .register p =>
    match r.register p with
    | .ok r => r
    | .error _ => r
  | .clear => r.clear

/-! ### One bundle -/

theorem validate_incomplete (incomplete : p.capacityCounter = none) : p.validate = .error .missingCapacityCounter := by
  rw [MeasurementProviders.validate, incomplete]

theorem validate_complete {counter : App → UInt64} (complete : p.capacityCounter = some counter) :
    p.validate = .ok ⟨p.consumptionAmount, p.rate.elim .internal .external, counter⟩ := by
  rw [MeasurementProviders.validate, complete]

theorem complete_of_validate {q : RegisteredProviders App} (valid : p.validate = .ok q) :
    ∃ counter, p.capacityCounter = some counter := by
  cases counted : p.capacityCounter with
  | none => cases (validate_incomplete counted).symm.trans valid
  | some counter => exact ⟨counter, rfl⟩

theorem register_cases (r : ProviderRegistry App) (p : MeasurementProviders App) :
    (p.capacityCounter = none ∧ r.register p = .error .missingCapacityCounter) ∨
    (p.capacityCounter.isSome ∧ r.isRegistered ∧ r.register p = .error .providersAlreadyRegistered) ∨
    (∃ q, r.installed = none ∧ p.validate = .ok q ∧ r.register p = .ok ⟨some q⟩) := by
  unfold register isRegistered
  cases counted : p.capacityCounter with
  | none => exact Or.inl ⟨rfl, by rw [validate_incomplete counted]⟩
  | some counter =>
    rw [validate_complete counted]
    cases r.installed with
    | none => exact Or.inr (Or.inr ⟨_, rfl, rfl, rfl⟩)
    | some q => exact Or.inr (Or.inl ⟨rfl, rfl, rfl⟩)

theorem register_incomplete_iff : r.register p = .error .missingCapacityCounter ↔ p.capacityCounter = none := by
  rcases register_cases r p with ⟨incomplete, refused⟩ | ⟨complete, _, refused⟩ | ⟨q, _, valid, accepted⟩
  · exact iff_of_true refused incomplete
  · rw [refused]
    exact iff_of_false nofun fun incomplete => Option.not_isSome_iff_eq_none.mpr incomplete complete
  · rw [accepted]
    refine iff_of_false nofun fun incomplete => ?_
    cases (validate_incomplete incomplete).symm.trans valid

theorem register_second_iff :
    r.register p = .error .providersAlreadyRegistered ↔ p.capacityCounter.isSome ∧ r.isRegistered = true := by
  rcases register_cases r p with ⟨incomplete, refused⟩ | ⟨complete, installed, refused⟩ | ⟨q, blank, _, accepted⟩
  · rw [refused]
    exact iff_of_false nofun fun second => Option.not_isSome_iff_eq_none.mpr incomplete second.1
  · exact iff_of_true refused ⟨complete, installed⟩
  · rw [accepted]
    exact iff_of_false nofun fun second => Option.not_isSome_iff_eq_none.mpr blank second.2

theorem register_errors {e : LimitError} (refused : r.register p = .error e) :
    e = .missingCapacityCounter ∨ e = .providersAlreadyRegistered := by
  rcases register_cases r p with ⟨_, refused'⟩ | ⟨_, _, refused'⟩ | ⟨q, _, _, accepted⟩
  · cases refused.symm.trans refused'
    exact Or.inl rfl
  · cases refused.symm.trans refused'
    exact Or.inr rfl
  · cases refused.symm.trans accepted

theorem step_of_ok {r' : ProviderRegistry App} (accepted : r.register p = .ok r') : r.step (.register p) = r' := by
  rw [step, accepted]

theorem step_of_error {e : LimitError} (refused : r.register p = .error e) : r.step (.register p) = r := by
  rw [step, refused]

/-! ### Readings -/

/-- All that is read from the registry is what the bundle measures. What it does not measure falls back to one unit and
to the window at the given time, the capacity to an error. -/
structure ReadsFrom (r : ProviderRegistry App) (p : MeasurementProviders App) : Prop where
  amount : ∀ c, r.amount c = p.consumptionAmount.elim 1 fun measure => measure c
  rate : ∀ app w now, r.currentRate app w now = p.rate.elim (w.currentRate now) fun measure => (measure app, w)
  capacity : ∀ app, r.capacityUsage app =
    p.capacityCounter.elim (.error .providersNotRegistered) fun count => .ok (count app)

theorem readsFrom_nothing (blank : r.installed = none) : r.ReadsFrom {} where
  amount c := by rw [amount, blank]; rfl
  rate app w now := by rw [currentRate, blank]; rfl
  capacity app := by rw [capacityUsage, blank]; rfl

theorem readsFrom_installed {q : RegisteredProviders App} (installed : r.installed = some q)
    (valid : p.validate = .ok q) : r.ReadsFrom p := by
  obtain ⟨counter, complete⟩ := complete_of_validate valid
  cases (validate_complete complete).symm.trans valid
  refine ⟨fun c => ?_, fun app w now => ?_, fun app => ?_⟩
  · rw [amount, installed]
    show RegisteredProviders.amount _ c = _
    unfold RegisteredProviders.amount
    cases p.consumptionAmount <;> rfl
  · rw [currentRate, installed]
    show RateSource.currentRate (p.rate.elim .internal .external) app w now = _
    cases p.rate <;> rfl
  · rw [capacityUsage, installed, complete]
    rfl

end ProviderRegistry

/-- A registry that began empty, and what has happened to it since. -/
structure RegistryHistory (App : Type) extends History (@ProviderRegistry.step App) where
  blank : start = {}

namespace RegistryHistory

open ProviderRegistry History

variable {h : RegistryHistory App} {m n : Nat} {p : MeasurementProviders App}

def Offers (h : RegistryHistory App) (m : Nat) (p : MeasurementProviders App) : Prop :=
  h.events[m]? = some (.register p) ∧ p.capacityCounter.isSome

/-- Whatever complete has been offered before has been cleared away since. -/
def Cleared (h : RegistryHistory App) (n : Nat) : Prop :=
  ∀ k p, k < n → h.Offers k p → ∃ j, k < j ∧ j < n ∧ h.events[j]? = some .clear

/-- The bundle was the first complete one to be offered since a clear, or since the start, and nothing has been cleared
since. -/
structure Stands (h : RegistryHistory App) (n m : Nat) (p : MeasurementProviders App) : Prop where
  before : m < n
  offered : h.Offers m p
  first : h.Cleared m
  since : ∀ j, m < j → j < n → h.events[j]? ≠ some .clear

theorem cleared_succ : h.Cleared (n + 1) ↔ h.events[n]? = some .clear ∨ (h.Cleared n ∧ ∀ p, ¬ h.Offers n p) := by
  constructor
  · intro cleared
    by_cases now : h.events[n]? = some .clear
    · exact Or.inl now
    refine Or.inr ⟨fun k p before offered => ?_, fun p offered => ?_⟩
    · obtain ⟨j, later, within, clears⟩ := cleared k p (Nat.lt_succ_of_lt before) offered
      rcases Nat.lt_succ_iff_lt_or_eq.mp within with inside | rfl
      · exact ⟨j, later, inside, clears⟩
      · exact (now clears).elim
    · obtain ⟨j, later, within, _⟩ := cleared n p (Nat.lt_succ_self n) offered
      omega
  · rintro (now | ⟨cleared, nothing⟩) k p within offered
    · rcases Nat.lt_succ_iff_lt_or_eq.mp within with inside | rfl
      · exact ⟨n, inside, Nat.lt_succ_self n, now⟩
      · cases now.symm.trans offered.1
    · rcases Nat.lt_succ_iff_lt_or_eq.mp within with inside | rfl
      · obtain ⟨j, later, sooner, clears⟩ := cleared k p inside offered
        exact ⟨j, later, Nat.lt_succ_of_lt sooner, clears⟩
      · exact (nothing p offered).elim

namespace Stands

theorem succ (stands : h.Stands n m p) (kept : h.events[n]? ≠ some .clear) : h.Stands (n + 1) m p := by
  refine { stands with before := Nat.lt_succ_of_lt stands.before, since := fun j later within => ?_ }
  rcases Nat.lt_succ_iff_lt_or_eq.mp within with inside | rfl
  · exact stands.since j later inside
  · exact kept

theorem offer (offered : h.Offers n p) (first : h.Cleared n) : h.Stands (n + 1) n p :=
  ⟨Nat.lt_succ_self n, offered, first, fun j later within => by omega⟩

theorem not_cleared (stands : h.Stands n m p) : ¬ h.Cleared n := by
  intro cleared
  obtain ⟨j, later, within, clears⟩ := cleared m p stands.before stands.offered
  exact stands.since j later within clears

theorem not_earlier {m' : Nat} {p' : MeasurementProviders App} (stands : h.Stands n m p) (stands' : h.Stands n m' p') :
    ¬ m < m' := by
  intro earlier
  obtain ⟨j, later, sooner, clears⟩ := stands'.first m p earlier stands.offered
  exact stands.since j later (Nat.lt_trans sooner stands'.before) clears

theorem unique {m' : Nat} {p' : MeasurementProviders App} (stands : h.Stands n m p) (stands' : h.Stands n m' p') :
    p = p' := by
  have same : m = m' := Nat.le_antisymm (Nat.not_lt.mp (stands'.not_earlier stands))
    (Nat.not_lt.mp (stands.not_earlier stands'))
  subst same
  cases stands.offered.1.symm.trans stands'.offered.1
  rfl

end Stands

/-- Either nothing is installed and nothing stands, or what is installed stands. -/
theorem installed_cases (h : RegistryHistory App) (n : Nat) :
    ((h.state n).installed = none ∧ h.Cleared n) ∨
      ∃ m p q, (h.state n).installed = some q ∧ p.validate = .ok q ∧ h.Stands n m p := by
  induction n with
  | zero =>
    rw [state_zero, h.blank]
    exact Or.inl ⟨rfl, fun k p before _ => (Nat.not_lt_zero k before).elim⟩
  | succ n ih =>
    -- Unless the registry is cleared, an event that leaves it as it is offers nothing complete to an empty one.
    have unchanged (same : h.state (n + 1) = h.state n) (kept : h.events[n]? ≠ some .clear)
        (idle : (h.state n).installed = none → ∀ p, ¬ h.Offers n p) :
        ((h.state (n + 1)).installed = none ∧ h.Cleared (n + 1)) ∨
          ∃ m p q, (h.state (n + 1)).installed = some q ∧ p.validate = .ok q ∧ h.Stands (n + 1) m p := by
      rw [same]
      rcases ih with ⟨blank, cleared⟩ | ⟨m, p, q, installed, valid, stands⟩
      · exact Or.inl ⟨blank, cleared_succ.mpr (Or.inr ⟨cleared, idle blank⟩)⟩
      · exact Or.inr ⟨m, p, q, installed, valid, stands.succ kept⟩
    cases happened : h.events[n]? with
    | none =>
      refine unchanged (state_succ_of_none happened) (happened ▸ nofun) fun _ p offered => ?_
      cases happened.symm.trans offered.1
    | some e =>
      cases e with
      | clear =>
        rw [state_succ happened]
        exact Or.inl ⟨rfl, cleared_succ.mpr (Or.inl happened)⟩
      | register p =>
        have kept : h.events[n]? ≠ some .clear := happened ▸ nofun
        rcases register_cases (h.state n) p with
          ⟨incomplete, refused⟩ | ⟨_, installed, refused⟩ | ⟨q, blank, valid, accepted⟩
        · refine unchanged ((state_succ happened).trans (step_of_error refused)) kept fun _ p' offered => ?_
          cases happened.symm.trans offered.1
          exact Option.not_isSome_iff_eq_none.mpr incomplete offered.2
        · refine unchanged ((state_succ happened).trans (step_of_error refused)) kept fun blank => ?_
          exact (Option.not_isSome_iff_eq_none.mpr blank installed).elim
        · have cleared : h.Cleared n := by
            rcases ih with ⟨_, cleared⟩ | ⟨_, _, _, installed, _, _⟩
            · exact cleared
            · cases blank.symm.trans installed
          obtain ⟨counter, complete⟩ := complete_of_validate valid
          have offered : h.Offers n p := ⟨happened, Option.isSome_of_eq_some complete⟩
          rw [state_succ happened, step_of_ok accepted]
          exact Or.inr ⟨n, p, q, rfl, valid, .offer offered cleared⟩

theorem installed_of_stands (stands : h.Stands n m p) : ∃ q, (h.state n).installed = some q ∧ p.validate = .ok q := by
  rcases h.installed_cases n with ⟨_, cleared⟩ | ⟨m', p', q, installed, valid, stands'⟩
  · exact (stands.not_cleared cleared).elim
  · cases stands.unique stands'
    exact ⟨q, installed, valid⟩

theorem installed_of_none (none_stands : ∀ m p, ¬ h.Stands n m p) : (h.state n).installed = none := by
  rcases h.installed_cases n with ⟨blank, _⟩ | ⟨m, p, _, _, _, stands⟩
  · exact blank
  · exact (none_stands m p stands).elim

theorem installed_iff {q : RegisteredProviders App} :
    (h.state n).installed = some q ↔ ∃ m p, h.Stands n m p ∧ p.validate = .ok q := by
  constructor
  · intro installed
    rcases h.installed_cases n with ⟨blank, _⟩ | ⟨m, p, q', installed', valid, stands⟩
    · cases blank.symm.trans installed
    · cases installed.symm.trans installed'
      exact ⟨m, p, stands, valid⟩
  · rintro ⟨m, p, stands, valid⟩
    obtain ⟨q', installed, valid'⟩ := installed_of_stands stands
    cases valid.symm.trans valid'
    exact installed

theorem isRegistered_iff : (h.state n).isRegistered = true ↔ ∃ m p, h.Stands n m p := by
  rw [isRegistered, Option.isSome_iff_exists]
  constructor
  · rintro ⟨q, installed⟩
    obtain ⟨m, p, stands, _⟩ := installed_iff.mp installed
    exact ⟨m, p, stands⟩
  · rintro ⟨m, p, stands⟩
    obtain ⟨q, installed, _⟩ := installed_of_stands stands
    exact ⟨q, installed⟩

/-- The first bundle with a counter since the last clear stands, whatever is refused after it. All readings are its
own, with a fallback for what it leaves out. -/
theorem first_complete_stands (h : RegistryHistory App) (n : Nat) :
    (∀ q, (h.state n).installed = some q ↔ ∃ m p, h.Stands n m p ∧ p.validate = .ok q) ∧
    (∀ p, ((h.state n).register p = .error .missingCapacityCounter ↔ p.capacityCounter = none) ∧
      ((h.state n).register p = .error .providersAlreadyRegistered ↔
        p.capacityCounter.isSome ∧ ∃ m q, h.Stands n m q) ∧
      ∀ e, (h.state n).register p = .error e →
        (e = .missingCapacityCounter ∨ e = .providersAlreadyRegistered) ∧
          (h.state n).step (.register p) = h.state n) ∧
    (∀ m p, h.Stands n m p → (h.state n).ReadsFrom p) ∧
    ((∀ m p, ¬ h.Stands n m p) → (h.state n).ReadsFrom {}) := by
  refine ⟨fun q => installed_iff, fun p => ⟨?_, ?_, ?_⟩, fun m p stands => ?_, fun nothing => ?_⟩
  · exact register_incomplete_iff
  · rw [register_second_iff, isRegistered_iff]
  · exact fun e refused => ⟨register_errors refused, step_of_error refused⟩
  · obtain ⟨q, installed, valid⟩ := installed_of_stands stands
    exact readsFrom_installed installed valid
  · exact readsFrom_nothing (installed_of_none nothing)

def counting (n : UInt64) : MeasurementProviders Unit where
  capacityCounter := some fun _ => n

/-- One bundle lacks a counter, the next is refused as the second, and after a clear another one is installed. -/
def replaced : RegistryHistory Unit where
  start := {}
  blank := rfl
  events := [.register { rate := some fun _ => 2 }, .register (counting 3), .register (counting 4), .clear,
    .register (counting 5)]

theorem replaced_stands :
    replaced.Stands 3 1 (counting 3) ∧ (replaced.state 3).capacityUsage () = .ok 3 ∧
    (replaced.state 3).amount .empty = 1 ∧
    (replaced.state 3).register (counting 4) = .error .providersAlreadyRegistered ∧
    (replaced.state 3).step (.register (counting 4)) = replaced.state 3 ∧
    (∀ m p, ¬ replaced.Stands 4 m p) ∧ (replaced.state 4).capacityUsage () = .error .providersNotRegistered ∧
    replaced.Stands 5 4 (counting 5) ∧ (replaced.state 5).capacityUsage () = .ok 5 := by
  have first : replaced.Stands 3 1 (counting 3) := by
    refine ⟨by decide, ⟨rfl, rfl⟩, fun k p before offered => ?_, fun j later within => ?_⟩
    · obtain rfl := Nat.lt_one_iff.mp before
      obtain ⟨same, complete⟩ := offered
      cases same
      cases complete
    · obtain rfl : j = 2 := by omega
      exact nofun
  have cleared : replaced.Cleared 4 := cleared_succ.mpr (Or.inl rfl)
  have second : replaced.Stands 5 4 (counting 5) := .offer ⟨rfl, rfl⟩ cleared
  obtain ⟨_, offers, reads, _⟩ := first_complete_stands replaced 3
  have refused := (offers (counting 4)).2.1.mpr ⟨rfl, _, _, first⟩
  have nothing : ∀ m p, ¬ replaced.Stands 4 m p := fun m p stands => stands.not_cleared cleared
  exact ⟨first, (reads _ _ first).capacity (), (reads _ _ first).amount .empty, refused,
    ((offers (counting 4)).2.2 _ refused).2, nothing,
    ((first_complete_stands replaced 4).2.2.2 nothing).capacity (),
    second, ((first_complete_stands replaced 5).2.2.1 _ _ second).capacity ()⟩

end RegistryHistory

end Entitlement
