import Entitlement.CheckKey
import Entitlement.Table
import Entitlement.Time

/-!
A cache whose entries go stale. An entry is fresh strictly before the instant at which it expires;
a stale entry stays stored until it is replaced, invalidated or purged, but no lookup returns it.
-/

namespace Entitlement

/-- A stored value and the instant from which on it is stale. Without one it never goes stale. -/
structure CacheEntry (α : Type) where
  value : α
  expiresAt : Option Instant

namespace CacheEntry

variable {α : Type}

/-- A lifetime whose end the clock does not reach has no end. -/
def storedAt (value : α) (ttl : Duration) (now : Instant) : CacheEntry α := ⟨value, now.add? ttl⟩

def isFresh (e : CacheEntry α) (now : Instant) : Bool :=
  match e.expiresAt with
  | some t => now.nanos < t.nanos
  | none => true

end CacheEntry

structure Cache (α : Type) where
  entries : Table CheckKey (CacheEntry α)
  defaultTtl : Duration

namespace Cache

variable {α : Type}

def standardTtl : Duration := .ofSeconds 10

def empty (defaultTtl : Duration := standardTtl) : Cache α := ⟨.empty, defaultTtl⟩

/-- The lifetime that the authority suggests, unless it suggests none or nothing. -/
def effectiveTtl (c : Cache α) (suggested : Option Duration) : Duration :=
  (suggested.filter fun d => !d.isZero).getD c.defaultTtl

/-- The value of `k` if its entry is fresh. -/
def get? (c : Cache α) (k : CheckKey) (now : Instant) : Option α :=
  ((c.entries.find? k).filter fun e => e.isFresh now).map CacheEntry.value

def put (c : Cache α) (k : CheckKey) (value : α) (ttl : Duration) (now : Instant) : Cache α :=
  { c with entries := c.entries.insert k (.storedAt value ttl now) }

/-- Forgets the entry of `k`; tells whether there was one, fresh or not. -/
def invalidate (c : Cache α) (k : CheckKey) : Bool × Cache α :=
  (c.entries.contains k, { c with entries := c.entries.erase k })

def invalidateAll (c : Cache α) : Cache α := { c with entries := .empty }

/-- Forgets the entries that are stale at `now`; tells how many they were. -/
def purgeExpired (c : Cache α) (now : Instant) : Nat × Cache α :=
  let kept := c.entries.filter fun _ e => e.isFresh now
  (c.entries.size - kept.size, { c with entries := kept })

def size (c : Cache α) : Nat := c.entries.size

end Cache

end Entitlement
