import Entitlement.Proofs.Cache
import Entitlement.Proofs.History
import Entitlement.Proofs.Table

/-!
What a cache remembers. Its operations come at whatever times the callers name. An entry is what was last put
under its key, and nothing but another entry, an invalidation, or a purge at a time at which it is stale takes
it away; a lookup gives it while it is fresh (`cache_remembers`).
-/

namespace Entitlement

/-- What is stored for `ttl` is fresh: its lifetime is not over, or the clock does not reach the end of it. -/
def Duration.Lasts (ttl : Duration) (stored now : Instant) : Prop :=
  now.nanos < stored.nanos + ttl.nanos ∨ Instant.clockEnd ≤ stored.nanos + ttl.nanos

instance (ttl : Duration) (stored now : Instant) : Decidable (ttl.Lasts stored now) :=
  inferInstanceAs (Decidable (_ ∨ _))

/-- How long a value is to be fresh: as long as the caller says, or as the authority suggests. -/
inductive Lifetime
  | asked (ttl : Duration)
  | suggested (ttl : Option Duration)
  deriving DecidableEq, Repr

/-- No suggestion, or one of no time at all, leaves it to the default. -/
def Lifetime.ttl (default : Duration) : Lifetime → Duration
  | .asked ttl => ttl
  | .suggested none => default
  | .suggested (some ttl) => if ttl.nanos = 0 then default else ttl

/-- What is done with a cache. The times are those of the callers, in whatever order they come. -/
inductive CacheEvent (α : Type)
  | put (key : CheckKey) (value : α) (lifetime : Lifetime) (now : Instant)
  | invalidate (key : CheckKey)
  | invalidateAll
  | purgeExpired (now : Instant)

variable {α : Type}

/-- The event puts an end to what was stored for `ttl` under `k`. -/
def CacheEvent.Ends (k : CheckKey) (ttl : Duration) (stored : Instant) : CacheEvent α → Prop
  | .put key _ _ _ => key = k
  | .invalidate key => key = k
  | .invalidateAll => True
  | .purgeExpired now => ¬ ttl.Lasts stored now

instance (k : CheckKey) (ttl : Duration) (stored : Instant) : (e : CacheEvent α) → Decidable (e.Ends k ttl stored)
  | .put key _ _ _ => inferInstanceAs (Decidable (key = k))
  | .invalidate key => inferInstanceAs (Decidable (key = k))
  | .invalidateAll => .isTrue trivial
  | .purgeExpired now => inferInstanceAs (Decidable (¬ ttl.Lasts stored now))

/-- The same of an entry that is there. -/
def CacheEvent.Spares (k : CheckKey) (entry : CacheEntry α) : CacheEvent α → Prop
  | .put key _ _ _ => key ≠ k
  | .invalidate key => key ≠ k
  | .invalidateAll => False
  | .purgeExpired now => entry.isFresh now = true

theorem CacheEvent.spares_storedAt {e : CacheEvent α} {k : CheckKey} {value : α} {ttl : Duration}
    {stored : Instant} : e.Spares k (.storedAt value ttl stored) ↔ ¬ e.Ends k ttl stored := by
  cases e with
  | put key value' lifetime now => exact Iff.rfl
  | invalidate key => exact Iff.rfl
  | invalidateAll => exact iff_of_false id (not_not_intro trivial)
  | purgeExpired now => exact CacheEntry.isFresh_storedAt.trans not_not.symm

namespace Cache

variable {c : Cache α}

def step (c : Cache α) : CacheEvent α → Cache α
  | .put key value (.asked ttl) now => c.put key value ttl now
  | .put key value (.suggested ttl) now => c.put key value (c.effectiveTtl ttl) now
  | .invalidate key => (c.invalidate key).2
  | .invalidateAll => c.invalidateAll
  | .purgeExpired now => (c.purgeExpired now).2

/-! ### One event -/

theorem effectiveTtl_eq (c : Cache α) (ttl : Option Duration) :
    c.effectiveTtl ttl = (Lifetime.suggested ttl).ttl c.defaultTtl := by
  cases ttl with
  | none => rfl
  | some d =>
    by_cases zero : d.nanos = 0 <;> simp [effectiveTtl, Lifetime.ttl, Duration.isZero, Option.filter_some, zero]

theorem step_put (c : Cache α) (key : CheckKey) (value : α) (lifetime : Lifetime) (now : Instant) :
    c.step (.put key value lifetime now) = c.put key value (lifetime.ttl c.defaultTtl) now := by
  cases lifetime with
  | asked ttl => rfl
  | suggested ttl => rw [step, effectiveTtl_eq]

theorem defaultTtl_step (c : Cache α) (e : CacheEvent α) : (c.step e).defaultTtl = c.defaultTtl := by
  cases e with
  | put key value lifetime now => rw [step_put]; rfl
  | _ => rfl

theorem find?_step {e : CacheEvent α} {k : CheckKey} {entry : CacheEntry α} :
    (c.step e).entries.find? k = some entry ↔
      (∃ value lifetime stored, e = .put k value lifetime stored ∧
        entry = .storedAt value (lifetime.ttl c.defaultTtl) stored) ∨
      (c.entries.find? k = some entry ∧ e.Spares k entry) := by
  cases e with
  | put key value lifetime now =>
    rw [step_put, find?_put]
    by_cases own : k = key
    · subst own
      simp [CacheEvent.Spares, eq_comm]
    · simp [CacheEvent.Spares, own, Ne.symm own]
  | invalidate key =>
    rw [step, find?_invalidate]
    by_cases own : k = key
    · subst own
      simp [CacheEvent.Spares]
    · simp [CacheEvent.Spares, own, Ne.symm own]
  | invalidateAll => simp [step, invalidateAll, CacheEvent.Spares]
  | purgeExpired now =>
    rw [step, find?_purgeExpired, Option.filter_eq_some_iff]
    simp [CacheEvent.Spares]

end Cache

/-! ### Histories -/

structure CacheHistory (α : Type) extends History (@Cache.step α) where
  defaultTtl : Duration
  blank : start = .empty defaultTtl

namespace CacheHistory
open History

variable {h : CacheHistory α} {k : CheckKey} {value : α} {ttl : Duration} {stored : Instant}

/-- The `n`th event stores `value` under `k`, for `ttl` from `stored` on. -/
def Puts (h : CacheHistory α) (n : Nat) (k : CheckKey) (value : α) (ttl : Duration) (stored : Instant) : Prop :=
  ∃ lifetime, h.events[n]? = some (.put k value lifetime stored) ∧ lifetime.ttl h.defaultTtl = ttl

/-- One of the first `n` events stores this, and none of the later ones puts an end to it. -/
def Remembers (h : CacheHistory α) (n : Nat) (k : CheckKey) (value : α) (ttl : Duration) (stored : Instant) :
    Prop :=
  ∃ m < n, h.Puts m k value ttl stored ∧ ∀ j < n, m < j → ∀ e ∈ h.events[j]?, ¬ e.Ends k ttl stored

theorem defaultTtl_state (h : CacheHistory α) (n : Nat) : (h.state n).defaultTtl = h.defaultTtl := by
  refine h.invariant (P := fun c => c.defaultTtl = h.defaultTtl) ?_ ?_ n
  · rw [h.blank]
    rfl
  · intro j e _ before
    exact (Cache.defaultTtl_step _ e).trans before

theorem remembers_succ {n : Nat} :
    h.Remembers (n + 1) k value ttl stored ↔
      h.Puts n k value ttl stored ∨
        (h.Remembers n k value ttl stored ∧ ∀ e ∈ h.events[n]?, ¬ e.Ends k ttl stored) := by
  constructor
  · rintro ⟨m, before, puts, since⟩
    rcases Nat.lt_succ_iff_lt_or_eq.mp before with sooner | rfl
    · refine Or.inr ⟨⟨m, sooner, puts, ?_⟩, since n (Nat.lt_succ_self n) sooner⟩
      intro j within after
      exact since j (Nat.lt_succ_of_lt within) after
    · exact Or.inl puts
  · rintro (puts | ⟨⟨m, sooner, puts, since⟩, now⟩)
    · refine ⟨n, Nat.lt_succ_self n, puts, ?_⟩
      intro j within after
      omega
    · refine ⟨m, Nat.lt_succ_of_lt sooner, puts, ?_⟩
      intro j within after
      rcases Nat.lt_succ_iff_lt_or_eq.mp within with inside | rfl
      · exact since j inside after
      · exact now

/-- The induction is on the history: an entry was put by the last event, or it was remembered before and that
event spares it. -/
theorem find?_state (h : CacheHistory α) (n : Nat) (k : CheckKey) (entry : CacheEntry α) :
    (h.state n).entries.find? k = some entry ↔
      ∃ value ttl stored, h.Remembers n k value ttl stored ∧ entry = .storedAt value ttl stored := by
  induction n with
  | zero =>
    rw [state_zero, h.blank]
    refine iff_of_false nofun ?_
    rintro ⟨value, ttl, stored, ⟨m, before, _⟩, _⟩
    exact Nat.not_lt_zero m before
  | succ n ih =>
    cases happened : h.events[n]? with
    | some e =>
      rw [state_succ happened, Cache.find?_step, h.defaultTtl_state n, ih]
      constructor
      · rintro (⟨value, lifetime, stored, rfl, same⟩ | ⟨⟨value, ttl, stored, remembered, rfl⟩, spared⟩)
        · exact ⟨value, _, stored, remembers_succ.mpr (Or.inl ⟨lifetime, happened, rfl⟩), same⟩
        · have unended := CacheEvent.spares_storedAt.mp spared
          refine ⟨value, ttl, stored, remembers_succ.mpr (Or.inr ⟨remembered, ?_⟩), rfl⟩
          rw [happened]
          rintro _ ⟨⟩
          exact unended
      · rintro ⟨value, ttl, stored, remembered, rfl⟩
        rcases remembers_succ.mp remembered with ⟨lifetime, puts, rfl⟩ | ⟨remembered, unended⟩
        · cases happened.symm.trans puts
          exact Or.inl ⟨value, lifetime, stored, rfl, rfl⟩
        · exact Or.inr ⟨⟨value, ttl, stored, remembered, rfl⟩, CacheEvent.spares_storedAt.mpr (unended e happened)⟩
    | none =>
      rw [state_succ_of_none happened, ih]
      refine exists₃_congr fun value ttl stored => and_congr_left' ?_
      rw [remembers_succ, happened]
      constructor
      · intro remembered
        exact Or.inr ⟨remembered, nofun⟩
      · rintro (⟨_, puts, _⟩ | ⟨remembered, _⟩)
        · cases happened.symm.trans puts
        · exact remembered

theorem get?_state (h : CacheHistory α) (n : Nat) (k : CheckKey) (now : Instant) (value : α) :
    (h.state n).get? k now = some value ↔
      ∃ ttl stored, h.Remembers n k value ttl stored ∧ ttl.Lasts stored now := by
  rw [Cache.get?_some]
  constructor
  · rintro ⟨entry, found, fresh, rfl⟩
    obtain ⟨value, ttl, stored, remembered, rfl⟩ := (h.find?_state n k entry).mp found
    exact ⟨ttl, stored, remembered, CacheEntry.isFresh_storedAt.mp fresh⟩
  · rintro ⟨ttl, stored, remembered, lasts⟩
    have found := (h.find?_state n k _).mpr ⟨value, ttl, stored, remembered, rfl⟩
    exact ⟨_, found, CacheEntry.isFresh_storedAt.mpr lasts, rfl⟩

/-- The keys whose entry, still remembered, is stale. -/
def lapsed (h : CacheHistory α) (n : Nat) (now : Instant) : Set CheckKey :=
  {k | ∃ value ttl stored, h.Remembers n k value ttl stored ∧ ¬ ttl.Lasts stored now}

theorem purged_count (h : CacheHistory α) (n : Nat) (now : Instant) :
    ((h.state n).purgeExpired now).1 = (h.lapsed n now).ncard := by
  have removed := (h.state n).entries.size_sub_filter fun _ e => e.isFresh now
  refine removed.trans (congrArg Set.ncard (Set.ext fun k => ?_))
  constructor
  · rintro ⟨entry, found, stale⟩
    obtain ⟨value, ttl, stored, remembered, rfl⟩ := (h.find?_state n k entry).mp found
    exact ⟨value, ttl, stored, remembered, fun lasts => Bool.false_ne_true
      (stale.symm.trans (CacheEntry.isFresh_storedAt.mpr lasts))⟩
  · rintro ⟨value, ttl, stored, remembered, lapsed⟩
    refine ⟨_, (h.find?_state n k _).mpr ⟨value, ttl, stored, remembered, rfl⟩, ?_⟩
    exact Bool.eq_false_iff.mpr (mt CacheEntry.isFresh_storedAt.mp lapsed)

theorem purged_find? (h : CacheHistory α) (n : Nat) (now : Instant) (k : CheckKey) (entry : CacheEntry α) :
    ((h.state n).purgeExpired now).2.entries.find? k = some entry ↔
      ∃ value ttl stored, h.Remembers n k value ttl stored ∧ ttl.Lasts stored now ∧
        entry = .storedAt value ttl stored := by
  rw [Cache.find?_purgeExpired, Option.filter_eq_some_iff, find?_state]
  constructor
  · rintro ⟨⟨value, ttl, stored, remembered, rfl⟩, fresh⟩
    exact ⟨value, ttl, stored, remembered, CacheEntry.isFresh_storedAt.mp fresh, rfl⟩
  · rintro ⟨value, ttl, stored, remembered, lasts, rfl⟩
    exact ⟨⟨value, ttl, stored, remembered, rfl⟩, CacheEntry.isFresh_storedAt.mpr lasts⟩

/-- A lookup gives what was last put under its key, unless that has been forgotten since or its lifetime is over, and
cannot tell of a purge before. -/
theorem cache_remembers (h : CacheHistory α) :
    (∀ n k now value, (h.state n).get? k now = some value ↔
      ∃ ttl stored, h.Remembers n k value ttl stored ∧ ttl.Lasts stored now) ∧
    (∀ n purged,
      ((h.state n).purgeExpired purged).1 = (h.lapsed n purged).ncard ∧
      (∀ k entry, ((h.state n).purgeExpired purged).2.entries.find? k = some entry ↔
        ∃ value ttl stored, h.Remembers n k value ttl stored ∧ ttl.Lasts stored purged ∧
          entry = .storedAt value ttl stored) ∧
      (∀ k now, purged.nanos ≤ now.nanos →
        ((h.state n).purgeExpired purged).2.get? k now = (h.state n).get? k now)) ∧
    (∀ n k, ((h.state n).invalidate k).1 = true ↔ ∃ value ttl stored, h.Remembers n k value ttl stored) := by
  refine ⟨h.get?_state, ?_, ?_⟩
  · intro n purged
    refine ⟨h.purged_count n purged, h.purged_find? n purged, ?_⟩
    intro k now past
    exact (h.state n).get?_purgeExpired k past
  · intro n k
    rw [Cache.invalidate_found]
    constructor
    · rintro ⟨entry, found⟩
      obtain ⟨value, ttl, stored, remembered, _⟩ := (h.find?_state n k entry).mp found
      exact ⟨value, ttl, stored, remembered⟩
    · rintro ⟨value, ttl, stored, remembered⟩
      exact ⟨_, (h.find?_state n k _).mpr ⟨value, ttl, stored, remembered, rfl⟩⟩

/-- The product is put again at an earlier time than before, with a lifetime that outlasts the clock; a feature
lapses at the very end of the lifetime that the default gives it. -/
def outlasting : CacheHistory Nat where
  start := .empty ⟨10⟩
  defaultTtl := ⟨10⟩
  blank := rfl
  events := [.put .product 1 (.asked ⟨5⟩) ⟨20⟩, .put .product 2 (.suggested (some ⟨Instant.clockEnd⟩)) ⟨3⟩,
    .put (.feature "export") 3 (.suggested (some ⟨0⟩)) ⟨20⟩, .purgeExpired ⟨29⟩]

theorem outlasting_found :
    outlasting.Remembers 4 .product 2 ⟨Instant.clockEnd⟩ ⟨3⟩ ∧
    outlasting.Remembers 4 (.feature "export") 3 ⟨10⟩ ⟨20⟩ ∧
    (outlasting.state 4).get? .product ⟨Instant.clockEnd⟩ = some 2 ∧
    (outlasting.state 4).get? (.feature "export") ⟨29⟩ = some 3 ∧
    ((outlasting.state 4).purgeExpired ⟨30⟩).1 = 1 ∧
    ((outlasting.state 4).purgeExpired ⟨30⟩).2.get? .product ⟨40⟩ = (outlasting.state 4).get? .product ⟨40⟩ := by
  have product : outlasting.Remembers 4 .product 2 ⟨Instant.clockEnd⟩ ⟨3⟩ :=
    ⟨1, by decide, ⟨_, rfl, rfl⟩, by decide⟩
  have feature : outlasting.Remembers 4 (.feature "export") 3 ⟨10⟩ ⟨20⟩ :=
    ⟨2, by decide, ⟨_, rfl, rfl⟩, by decide⟩
  obtain ⟨lookups, purges, _⟩ := cache_remembers outlasting
  exact ⟨product, feature, (lookups 4 _ _ _).mpr ⟨_, _, product, by decide⟩,
    (lookups 4 _ _ _).mpr ⟨_, _, feature, by decide⟩, by decide, (purges 4 _).2.2 _ _ (by decide)⟩

end CacheHistory

end Entitlement
