import Entitlement.CheckKey
import Entitlement.Table

/-!
The ledger of concurrent slots. Whoever takes a slot gets the number of a guard; giving the guard
back frees the slot, once. Clearing the ledger starts a new generation, and a guard of an older
generation frees nothing any more.
-/

namespace Entitlement

/-- All slots under a key are taken. -/
structure SlotsExhausted where
  inUse : UInt64
  max : UInt64
  deriving DecidableEq, Repr

def SlotsExhausted.message (e : SlotsExhausted) : String :=
  "concurrency exceeded: " ++ toString e.inUse.toNat ++ " >= " ++ toString e.max.toNat

abbrev GuardId := Nat

/-- What a holder of a slot has in hand. -/
structure Guard where
  key : SlotKey
  generation : UInt64
  released : Bool := false
  deriving DecidableEq, Repr, Inhabited

structure Ledger where
  counts : Table SlotKey UInt64 := .empty
  generation : UInt64 := 0
  guards : Table GuardId Guard := .empty
  nextGuard : GuardId := 0

namespace Ledger

instance : Inhabited Ledger := ⟨{}⟩

def inUse (l : Ledger) (k : SlotKey) : UInt64 := (l.counts.find? k).getD 0

/-- How many keys have a slot taken. -/
def size (l : Ledger) : Nat := l.counts.size

/-- Takes a slot under `k` if fewer than `max` are taken. -/
def tryAcquire (l : Ledger) (k : SlotKey) (max : UInt64) : Except SlotsExhausted (GuardId × Ledger) :=
  if l.inUse k < max then
    .ok (l.nextGuard,
      { l with
        counts := l.counts.insert k (l.inUse k + 1)
        guards := l.guards.insert l.nextGuard { key := k, generation := l.generation }
        nextGuard := l.nextGuard + 1 })
  else .error ⟨l.inUse k, max⟩

/-- One slot less under `k`. The entry goes with its last slot. -/
def lower (counts : Table SlotKey UInt64) (k : SlotKey) : Table SlotKey UInt64 :=
  match counts.find? k with
  | some n => if 1 < n then counts.insert k (n - 1) else counts.erase k
  | none => counts

/-- Frees the slot of a guard. Only the first time counts, and only in the generation in which
the slot was taken. -/
def release (l : Ledger) (g : GuardId) : Ledger :=
  match l.guards.find? g with
  | some guard =>
    if guard.released then l
    else
      { l with
        guards := l.guards.insert g { guard with released := true }
        counts := if guard.generation = l.generation then lower l.counts guard.key else l.counts }
  | none => l

/-- The holder lets go of the guard itself. -/
def drop (l : Ledger) (g : GuardId) : Ledger :=
  let l := l.release g
  { l with guards := l.guards.erase g }

/-- No slot is taken afterwards. Generations are counted on a word and wrap around. -/
def clear (l : Ledger) : Ledger := { l with counts := .empty, generation := l.generation + 1 }

end Ledger

end Entitlement
