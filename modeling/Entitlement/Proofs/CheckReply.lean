import Entitlement.Proofs.Client.Provenance
import Entitlement.Proofs.Ledger.Limit

/-!
What the rules say of a reply (`decided_on_wire`). The limits of a reply are signed and count only above zero. They are
looked at when the reply becomes a snapshot and once more by the rule that they are for, and where there is none a rate
is admitted and anything else denied. Through both, each rule decides as on the wire, counted in whole numbers, and the
snapshot is kept as long as the reply says.
-/

namespace Entitlement

/-- What compares with nothing is not above zero. -/
theorem isNaN_not_positive {x : Float} (nan : x.isNaN = true) : ¬ 0 < x := by
  have unpacked : x.toModel.unpack = .notANumber := by
    cases shape : x.toModel.unpack with
    | notANumber => rfl
    | _ =>
      rw [Float.isNaN, Float.Model.isNaN, shape] at nan
      cases nan
  intro above
  have less : Float.Model.lt (0 : Float).toModel x.toModel = true := of_decide_eq_true above
  rw [Float.Model.lt, unpacked] at less
  generalize (0 : Float).toModel.unpack = zero at less
  cases zero <;> cases less

namespace CheckReply

/-- The limit is set, and `used` is below it. -/
def Below (used : UInt64) (limit : Option Int64) : Prop :=
  ∃ max, limit = some max ∧ 0 < max.toInt ∧ (used.toNat : Int) < max.toInt

/-- A limit as it is reported: zero stands for none. -/
def reported (limit : Option Int64) : Int := max 0 (limit.elim 0 Int64.toInt)

/-! ### Limits -/

theorem positive_iff {v : Int64} : 0 < v ↔ 0 < v.toInt := by
  rw [Int64.lt_iff_toInt_lt]
  rfl

theorem toNat_positive {v : Int64} (positive : 0 < v.toInt) : ((Saturating.toUInt64 v).toNat : Int) = v.toInt := by
  rw [Saturating.toNat_toUInt64]
  exact Int.toNat_of_nonneg (Int.le_of_lt positive)

/-- A limit keeps its value if it is set, and otherwise it is none. -/
theorem limit_cases (v : Option Int64) :
    (∃ wire max, v = some wire ∧ 0 < wire.toInt ∧ limit v = some max ∧ (max.toNat : Int) = wire.toInt) ∨
    (limit v = none ∧ ∀ wire, v = some wire → ¬ 0 < wire.toInt) := by
  cases v with
  | none => exact Or.inr ⟨rfl, nofun⟩
  | some wire =>
    by_cases positive : 0 < wire.toInt
    · refine Or.inl ⟨wire, _, rfl, positive, ?_, toNat_positive positive⟩
      simp only [limit, Option.filter_some, positive_iff, positive, decide_true, ↓reduceIte, Option.map_some]
    · refine Or.inr ⟨?_, ?_⟩
      · simp only [limit, Option.filter_some, positive_iff, positive, decide_false, Bool.false_eq_true, ↓reduceIte,
          Option.map_none]
      · rintro _ ⟨⟩
        exact positive

/-- Whether a limit is set need not be asked again. -/
theorem limit_filter (v : Option Int64) : (limit v).filter (0 < ·) = limit v := by
  rcases limit_cases v with ⟨wire, max, _, positive, converted, whole⟩ | ⟨unset, _⟩
  · have above : 0 < max := by
      rw [UInt64.lt_iff_toNat_lt, UInt64.toNat_zero]
      omega
    rw [converted, Option.filter_some, if_pos (decide_eq_true above)]
  · rw [unset, Option.filter_none]

theorem reported_limit (v : Option Int64) : (((limit v).getD 0).toNat : Int) = reported v := by
  rcases limit_cases v with ⟨wire, max, rfl, positive, converted, whole⟩ | ⟨unset, low⟩
  · rw [converted, Option.getD_some, whole]
    exact (Int.max_eq_right (Int.le_of_lt positive)).symm
  · rw [unset, Option.getD_none]
    cases v with
    | none => rfl
    | some wire => exact (Int.max_eq_left (Int.not_lt.mp (low wire rfl))).symm

theorem below_limit (used : UInt64) (v : Option Int64) : (∃ max, limit v = some max ∧ used < max) ↔ Below used v := by
  rcases limit_cases v with ⟨wire, max, rfl, positive, converted, whole⟩ | ⟨unset, low⟩
  · constructor
    · rintro ⟨_, same, free⟩
      cases converted.symm.trans same
      have free := UInt64.lt_iff_toNat_lt.mp free
      exact ⟨wire, rfl, positive, by omega⟩
    · rintro ⟨_, ⟨⟩, _, free⟩
      refine ⟨max, converted, UInt64.lt_iff_toNat_lt.mpr ?_⟩
      omega
  · refine iff_of_false ?_ ?_
    · rintro ⟨_, same, _⟩
      cases unset.symm.trans same
    · rintro ⟨wire, set, positive, _⟩
      exact low wire set positive

/-! ### Rules -/

variable (r : CheckReply)

theorem consume_toSnapshot (amount : UInt64) :
    (r.toSnapshot.consume amount).admitted = r.enabled ∧
      ((r.toSnapshot.consume amount).remaining.toNat : Int) = r.quota.elim 0 fun q =>
        if r.enabled then max 0 (max 0 q.remaining.toInt - amount.toNat) else max 0 q.remaining.toInt := by
  have left : (r.toSnapshot.remainingQuota.toNat : Int) = r.quota.elim 0 fun q => max 0 q.remaining.toInt := by
    simp only [Snapshot.remainingQuota, toSnapshot]
    cases r.quota with
    | none => rfl
    | some q =>
      simp only [Option.map_some, Option.getD_some, Option.elim_some, Quota.remainingUnits, Saturating.toNat_toUInt64]
      omega
  unfold Snapshot.consume
  simp only [show r.toSnapshot.admitted = r.enabled from rfl]
  cases r.enabled with
  | true =>
    refine ⟨rfl, ?_⟩
    simp only [↓reduceIte, Saturating.toNat_subUInt64]
    cases quota : r.quota with
    | none =>
      rw [quota] at left
      simp only [Option.elim_none] at left ⊢
      omega
    | some q =>
      rw [quota] at left
      simp only [Option.elim_some] at left ⊢
      omega
  | false => exact ⟨rfl, left⟩

theorem checkCapacity_toSnapshot (used : UInt64) :
    ((r.toSnapshot.checkCapacity used).admitted = true ↔ Below used r.maxCapacity) ∧
      ((r.toSnapshot.checkCapacity used).maxCapacity.toNat : Int) = reported r.maxCapacity ∧
      (r.toSnapshot.checkCapacity used).currentUsed = used := by
  have capacity : r.toSnapshot.capacityLimit = limit r.maxCapacity := limit_filter _
  rw [← below_limit, ← reported_limit, ← capacity]
  unfold Snapshot.checkCapacity
  cases r.toSnapshot.capacityLimit with
  | none => simp
  | some max => by_cases free : used < max <;> simp [free]

theorem acquireSlot_toSnapshot (l : Ledger) (k : SlotKey) :
    ((r.toSnapshot.acquireSlot l k).1.isAcquired = true ↔ Below (l.inUse k) r.maxConcurrency) ∧
      ∀ max inUse reason, (r.toSnapshot.acquireSlot l k).1 = .denied max inUse reason →
        (max.toNat : Int) = reported r.maxConcurrency ∧ inUse = l.inUse k := by
  have concurrency : r.toSnapshot.concurrencyLimit = limit r.maxConcurrency := limit_filter _
  rw [← below_limit, ← reported_limit, ← concurrency]
  rcases r.toSnapshot.acquireSlot_cases l k with ⟨max, g, l', limited, taken, acquired⟩ | ⟨reason, full, denied⟩
  · rw [acquired]
    exact ⟨iff_of_true rfl ⟨max, limited, (Ledger.tryAcquire_ok taken).1⟩, nofun⟩
  · rw [denied]
    refine ⟨iff_of_false nofun fun ⟨max, limited, free⟩ => full max limited free, ?_⟩
    rintro _ _ _ ⟨⟩
    exact ⟨rfl, rfl⟩

theorem checkRate_toSnapshot (current : Float) :
    ((r.toSnapshot.checkRate current).admitted = true ↔
        r.maxRate = none ∨ ∃ max, r.maxRate = some max ∧ (max.isNaN = true ∨ ¬ 0 < max ∨ current ≤ max)) ∧
      (r.toSnapshot.checkRate current).maxRate = (r.maxRate.elim 0 fun max => if 0 < max then max else 0) ∧
      (r.toSnapshot.checkRate current).currentRate = current := by
  have rate : r.toSnapshot.rateLimit = r.maxRate.filter (0 < ·) := by
    simp only [Snapshot.rateLimit, toSnapshot, Option.filter_filter, Bool.and_self]
  unfold Snapshot.checkRate
  rw [rate]
  cases r.maxRate with
  | none => simp
  | some max =>
    by_cases positive : 0 < max
    · rw [Option.filter_some, if_pos (decide_eq_true positive)]
      by_cases within : current ≤ max
      · simp [positive, within]
      · have exceeded : ¬ (max.isNaN = true ∨ ¬ 0 < max ∨ current ≤ max) := by
          rintro (nan | low | least)
          · exact isNaN_not_positive nan positive
          · exact low positive
          · exact within least
        simp only [if_neg within, if_pos positive, Option.elim_some, and_true, reduceCtorEq, Option.some.injEq,
          exists_eq_left', exceeded, or_self, Bool.false_eq_true]
    · rw [Option.filter_some, if_neg (by simp [positive])]
      simp [positive]

/-! ### Keeping -/

/-- How long the snapshot of the reply is kept: as many seconds as it says, if that is any. -/
def keptFor (standard : Duration) : Duration :=
  r.cacheTtl.elim standard fun ttl => if 0 < ttl.toInt then ⟨ttl.toInt.toNat * nanosPerSecond⟩ else standard

theorem lifetime_toGrant {App : Type} (h : ClientHistory App) : h.lifetime r.toGrant = r.keptFor h.config.cacheTtl := by
  unfold ClientHistory.lifetime keptFor
  simp only [toGrant, suggestedTtl]
  cases r.cacheTtl with
  | none => rfl
  | some ttl =>
    by_cases positive : 0 < ttl.toInt
    · have seconds : Duration.ofSeconds (Saturating.toUInt64 ttl) = ⟨ttl.toInt.toNat * nanosPerSecond⟩ := by
        rw [Duration.ofSeconds, Saturating.toNat_toUInt64]
      have lasting : (Duration.mk (ttl.toInt.toNat * nanosPerSecond)).isZero = false := by
        have some_seconds : ttl.toInt.toNat ≠ 0 := by omega
        exact beq_eq_false_iff_ne.mpr (Nat.mul_ne_zero some_seconds (by decide))
      simp only [Option.filter_some, positive_iff, positive, decide_true, ↓reduceIte, Option.map_some, seconds, lasting,
        Option.elim_some, Bool.false_eq_true]
    · simp only [Option.filter_some, positive_iff, positive, decide_false, ↓reduceIte, Option.map_none,
        Option.elim_some, Bool.false_eq_true]

/-- Each rule decides on the snapshot of a reply as the fields of the reply say, and the client keeps the snapshot as
long as the reply says. -/
theorem decided_on_wire :
    (∀ amount, (r.toSnapshot.consume amount).admitted = r.enabled ∧
      ((r.toSnapshot.consume amount).remaining.toNat : Int) = r.quota.elim 0 fun q =>
        if r.enabled then max 0 (max 0 q.remaining.toInt - amount.toNat) else max 0 q.remaining.toInt) ∧
    (∀ used, ((r.toSnapshot.checkCapacity used).admitted = true ↔ Below used r.maxCapacity) ∧
      ((r.toSnapshot.checkCapacity used).maxCapacity.toNat : Int) = reported r.maxCapacity ∧
      (r.toSnapshot.checkCapacity used).currentUsed = used) ∧
    (∀ l k, ((r.toSnapshot.acquireSlot l k).1.isAcquired = true ↔ Below (l.inUse k) r.maxConcurrency) ∧
      ∀ max inUse reason, (r.toSnapshot.acquireSlot l k).1 = .denied max inUse reason →
        (max.toNat : Int) = reported r.maxConcurrency ∧ inUse = l.inUse k) ∧
    (∀ current, ((r.toSnapshot.checkRate current).admitted = true ↔
        r.maxRate = none ∨ ∃ max, r.maxRate = some max ∧ (max.isNaN = true ∨ ¬ 0 < max ∨ current ≤ max)) ∧
      (r.toSnapshot.checkRate current).maxRate = (r.maxRate.elim 0 fun max => if 0 < max then max else 0) ∧
      (r.toSnapshot.checkRate current).currentRate = current) ∧
    ∀ (App : Type) (h : ClientHistory App) n q key now, h.Answers n q key r.toGrant now →
      (h.state (n + 1)).cache.entries.find? key = some (.storedAt r.toSnapshot (r.keptFor h.config.cacheTtl) now) := by
  refine ⟨r.consume_toSnapshot, r.checkCapacity_toSnapshot, r.acquireSlot_toSnapshot, r.checkRate_toSnapshot, ?_⟩
  intro App h n q key now answers
  rw [← lifetime_toGrant]
  exact answers.cached

/-- More is used than granted, the rate is not a number, and a limit is below zero. -/
def oddReply : CheckReply where
  enabled := true
  quota := some ⟨10, 15, -5, 0⟩
  maxCapacity := some Int64.maxValue
  maxRate := some (0 / 0)
  maxConcurrency := some (-1)
  cacheTtl := some Int64.maxValue

/-- The authority answers with that reply. -/
def oddlyAnswered : ClientHistory Unit :=
  .ofEvents [.call (.check .product) ⟨⟨0⟩, 0, ()⟩, .ask 0, .queryReply 0 (.ok oddReply.toGrant) ⟨1⟩]

theorem oddReply_decided :
    (oddReply.toSnapshot.consume 3).admitted = true ∧ (oddReply.toSnapshot.consume 3).remaining = 0 ∧
    (oddReply.toSnapshot.checkCapacity 0x7FFFFFFFFFFFFFFE).admitted = true ∧
    (oddReply.toSnapshot.checkRate (1 / 0)).admitted = true ∧ (oddReply.toSnapshot.checkRate (1 / 0)).maxRate = 0 ∧
    (∃ max inUse reason, (oddReply.toSnapshot.acquireSlot {} ⟨"instance", .product⟩).1 = .denied max inUse reason ∧
      (max.toNat : Int) = reported oddReply.maxConcurrency ∧ inUse = 0) ∧
    oddlyAnswered.Answers 2 0 .product oddReply.toGrant ⟨1⟩ ∧
    (oddlyAnswered.state 3).cache.entries.find? .product =
      some (.storedAt oddReply.toSnapshot ⟨0x7FFFFFFFFFFFFFFF * nanosPerSecond⟩ ⟨1⟩) := by
  obtain ⟨consume, capacity, slot, rate, kept⟩ := oddReply.decided_on_wire
  have denied : (oddReply.toSnapshot.acquireSlot {} ⟨"instance", .product⟩).1 = .denied 0 0 .noConcurrencyLimit := rfl
  have answers : oddlyAnswered.Answers 2 0 .product oddReply.toGrant ⟨1⟩ := ⟨rfl, rfl⟩
  refine ⟨(consume 3).1, by decide +kernel, ?_, ?_, ?_, ⟨0, 0, _, denied, (slot _ _).2 _ _ _ denied⟩, answers, ?_⟩
  · exact (capacity _).1.mpr ⟨_, rfl, by decide +kernel, by decide +kernel⟩
  · exact (rate _).1.mpr (Or.inr ⟨_, rfl, Or.inl (by decide +kernel)⟩)
  · exact (rate _).2.1.trans (by decide +kernel)
  · exact kept _ _ _ _ _ _ answers

end CheckReply

end Entitlement
