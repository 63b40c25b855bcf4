import Entitlement.Cache

/-!
What a cache holds and for how long. A stored value is fresh strictly before its lifetime is over, and for
ever where the clock does not reach that far. Once stale it stays stale, so a purge takes away nothing that a
later lookup would find.
-/

namespace Entitlement

variable {α : Type}

theorem CacheEntry.isFresh_storedAt {value : α} {ttl : Duration} {stored now : Instant} :
    (CacheEntry.storedAt value ttl stored).isFresh now = true ↔
      now.nanos < stored.nanos + ttl.nanos ∨ Instant.clockEnd ≤ stored.nanos + ttl.nanos := by
  unfold CacheEntry.isFresh CacheEntry.storedAt Instant.add?
  by_cases reached : stored.nanos + ttl.nanos < Instant.clockEnd
  · simp only [reached, ↓reduceIte, decide_eq_true_eq]
    constructor
    · exact Or.inl
    · rintro (sooner | beyond)
      · exact sooner
      · omega
  · simp only [reached, ↓reduceIte, true_iff]
    exact Or.inr (Nat.le_of_not_lt reached)

theorem CacheEntry.isFresh_sooner {e : CacheEntry α} {t now : Instant} (past : t.nanos ≤ now.nanos)
    (fresh : e.isFresh now = true) : e.isFresh t = true := by
  obtain ⟨value, expiresAt⟩ := e
  cases expiresAt with
  | none => rfl
  | some expiry => exact decide_eq_true (Nat.lt_of_le_of_lt past (of_decide_eq_true fresh))

namespace Cache

theorem get?_some {c : Cache α} {k : CheckKey} {now : Instant} {value : α} :
    c.get? k now = some value ↔ ∃ e, c.entries.find? k = some e ∧ e.isFresh now = true ∧ e.value = value := by
  unfold get?
  rw [Option.map_eq_some_iff]
  simp only [Option.filter_eq_some_iff, and_assoc]

theorem find?_put (c : Cache α) (k k' : CheckKey) (value : α) (ttl : Duration) (now : Instant) :
    (c.put k value ttl now).entries.find? k' =
      if k' = k then some (.storedAt value ttl now) else c.entries.find? k' :=
  Table.find?_insert ..

theorem find?_invalidate (c : Cache α) (k k' : CheckKey) :
    (c.invalidate k).2.entries.find? k' = if k' = k then none else c.entries.find? k' :=
  Table.find?_erase ..

theorem invalidate_found {c : Cache α} {k : CheckKey} :
    (c.invalidate k).1 = true ↔ ∃ e, c.entries.find? k = some e :=
  Option.isSome_iff_exists

theorem find?_purgeExpired (c : Cache α) (k : CheckKey) (now : Instant) :
    (c.purgeExpired now).2.entries.find? k = (c.entries.find? k).filter fun e => e.isFresh now :=
  Table.find?_filter ..

theorem get?_purgeExpired (c : Cache α) (k : CheckKey) {purged now : Instant} (past : purged.nanos ≤ now.nanos) :
    (c.purgeExpired purged).2.get? k now = c.get? k now := by
  unfold get?
  rw [find?_purgeExpired, Option.filter_filter]
  congr 2
  funext e
  cases fresh : e.isFresh now with
  | true => rw [CacheEntry.isFresh_sooner past fresh, Bool.and_true]
  | false => rw [Bool.and_false]

end Cache

end Entitlement
