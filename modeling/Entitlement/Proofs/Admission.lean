import Entitlement.Proofs.Ledger.Limit

/-!
Denials and what they rest on. Whichever rule denies gives a reason with a text to it, and only a rule that denies does.
Each rule rests on its own part of a snapshot: two snapshots that agree there are decided on alike, however they differ
otherwise (`denials_explained`).
-/

namespace Entitlement

/-- The text of a reason is what the authority has said, where it has said anything. -/
theorem DenialReason.code_authority {text : String} (something : text ≠ "") : code (.authority text) = text := by
  simp [code, something]

theorem DenialReason.code_ne_empty (r : DenialReason) : r.code ≠ "" := by
  cases r with
  | authority text =>
    by_cases nothing : text = ""
    · subst nothing
      decide
    · rw [code_authority nothing]
      exact nothing
  | _ => decide

/-- There is a reason if and only if this is a denial, and the reason says something. -/
def Explained (admitted : Bool) (reason : Option DenialReason) : Prop :=
  (reason.isSome = true ↔ admitted = false) ∧ ∀ r ∈ reason, r.code ≠ ""

theorem Explained.admitted : Explained true none := ⟨by simp, nofun⟩

theorem Explained.denied (r : DenialReason) : Explained false (some r) := ⟨by simp, fun r _ => r.code_ne_empty⟩

namespace Snapshot

variable (s : Snapshot)

/-! ### Reasons -/

theorem consume_explained (amount : UInt64) : Explained (s.consume amount).admitted (s.consume amount).reason := by
  unfold consume
  split
  · exact .admitted
  · exact .denied _

theorem checkRate_explained (current : Float) :
    Explained (s.checkRate current).admitted (s.checkRate current).reason := by
  unfold checkRate
  split
  · exact .admitted
  · split
    · exact .admitted
    · exact .denied _

theorem checkCapacity_explained (used : UInt64) :
    Explained (s.checkCapacity used).admitted (s.checkCapacity used).reason := by
  unfold checkCapacity
  split
  · exact .denied _
  · split
    · exact .admitted
    · exact .denied _

theorem acquireSlot_explained (l : Ledger) (k : SlotKey) :
    Explained (s.acquireSlot l k).1.isAcquired (s.acquireSlot l k).1.reason := by
  rcases s.acquireSlot_cases l k with ⟨_, _, _, _, _, granted⟩ | ⟨reason, _, denied⟩
  · rw [granted]
    exact .admitted
  · rw [denied]
    exact .denied reason

/-- A refused consumption says why in the words of the authority. -/
theorem consume_reason {text : String} (refused : s.admitted = false) (said : s.reason = some text)
    (something : text ≠ "") (amount : UInt64) : (s.consume amount).reason.map DenialReason.code = some text := by
  rw [consume, if_neg (by simp [refused]), Option.map_some, DenialReason.ofSnapshot, said, Option.getD_some,
    DenialReason.code_authority something]

/-! ### What a rule rests on -/

variable {s} {t : Snapshot}

theorem consume_congr (admitted : s.admitted = t.admitted) (reason : s.reason = t.reason) (quota : s.quota = t.quota)
    (amount : UInt64) : s.consume amount = t.consume amount := by
  simp only [consume, remainingQuota, DenialReason.ofSnapshot, admitted, reason, quota]

theorem checkRate_congr (same : s.maxRate = t.maxRate) (current : Float) :
    s.checkRate current = t.checkRate current := by
  simp only [checkRate, rateLimit, same]

theorem checkCapacity_congr (same : s.maxCapacity = t.maxCapacity) (used : UInt64) :
    s.checkCapacity used = t.checkCapacity used := by
  simp only [checkCapacity, capacityLimit, same]

theorem acquireSlot_congr (same : s.maxConcurrency = t.maxConcurrency) (l : Ledger) (k : SlotKey) :
    s.acquireSlot l k = t.acquireSlot l k := by
  simp only [acquireSlot, concurrencyLimit, same]

/-- A rule gives a reason, with a text to it, exactly if it denies, and decides on one limit, a consumption on the
flag, the reason and the quota. -/
theorem denials_explained :
    (∀ s : Snapshot,
      (∀ amount, Explained (s.consume amount).admitted (s.consume amount).reason ∧
        ∀ text, s.admitted = false → s.reason = some text → text ≠ "" →
          (s.consume amount).reason.map DenialReason.code = some text) ∧
      (∀ current, Explained (s.checkRate current).admitted (s.checkRate current).reason) ∧
      (∀ used, Explained (s.checkCapacity used).admitted (s.checkCapacity used).reason) ∧
      ∀ l k, Explained (s.acquireSlot l k).1.isAcquired (s.acquireSlot l k).1.reason) ∧
    ∀ s t : Snapshot,
      (s.maxRate = t.maxRate → ∀ current, s.checkRate current = t.checkRate current) ∧
      (s.maxCapacity = t.maxCapacity → ∀ used, s.checkCapacity used = t.checkCapacity used) ∧
      (s.maxConcurrency = t.maxConcurrency → ∀ l k, s.acquireSlot l k = t.acquireSlot l k) ∧
      (s.admitted = t.admitted → s.reason = t.reason → s.quota = t.quota →
        ∀ amount, s.consume amount = t.consume amount) := by
  refine ⟨fun s => ⟨fun amount => ⟨s.consume_explained amount, ?_⟩, s.checkRate_explained, s.checkCapacity_explained,
    s.acquireSlot_explained⟩, fun s t => ⟨checkRate_congr, checkCapacity_congr, acquireSlot_congr, consume_congr⟩⟩
  intro text refused said something
  exact s.consume_reason refused said something amount

/-- The authority refuses without a word, and sets limits, one of which is not a number. -/
def refusing : Snapshot where
  reason := some ""
  maxCapacity := some 3
  maxRate := some (0 / 0)
  maxConcurrency := some 1

/-- It admits, with a quota, under the same limits. -/
def granting : Snapshot := { refusing with admitted := true, reason := some "fine", quota := some (.of 10 3 0) }

/-- It refuses and says why, and sets no limits. -/
def unlimited : Snapshot where
  reason := some "expired"

theorem refusing_explained :
    (refusing.consume 1).admitted = false ∧ (refusing.consume 1).reason.map DenialReason.code = some "not_admitted" ∧
    (unlimited.consume 1).reason.map DenialReason.code = some "expired" ∧
    Explained (unlimited.checkCapacity 0).admitted (unlimited.checkCapacity 0).reason ∧
    (∀ current, refusing.checkRate current = granting.checkRate current) ∧
    (∀ used, refusing.checkCapacity used = granting.checkCapacity used) ∧
    (∀ l k, refusing.acquireSlot l k = granting.acquireSlot l k) ∧
    ∀ amount, unlimited.consume amount = { refusing with reason := some "expired" : Snapshot }.consume amount := by
  obtain ⟨explained, alike⟩ := denials_explained
  obtain ⟨rate, capacity, slot, _⟩ := alike refusing granting
  obtain ⟨consume, _, capacityExplained, _⟩ := explained unlimited
  refine ⟨rfl, by decide, (consume 1).2 "expired" rfl rfl (by decide), capacityExplained 0, rate rfl, capacity rfl,
    slot rfl, (alike unlimited _).2.2.2 rfl rfl rfl⟩

end Snapshot

end Entitlement
