/-!
Subtraction on machine words that stops at the ends of the range instead of wrapping.
-/

namespace Entitlement.Saturating

/-- The signed word nearest to `i`. -/
def clampInt64 (i : Int) : Int64 :=
  if i < -0x8000000000000000 then Int64.minValue else if 0x8000000000000000 ≤ i then Int64.maxValue else Int64.ofInt i

/-- The difference, or the end of the range on its side. -/
def subInt64 (a b : Int64) : Int64 := clampInt64 (a.toInt - b.toInt)

/-- The difference, or zero. -/
def subUInt64 (a b : UInt64) : UInt64 := if a < b then 0 else a - b

theorem toNat_subUInt64 (a b : UInt64) : (subUInt64 a b).toNat = a.toNat - b.toNat := by
  unfold subUInt64
  split
  · next h => have := UInt64.lt_iff_toNat_lt.1 h; simp; omega
  · next h =>
    have := mt UInt64.lt_iff_toNat_lt.2 h
    rw [UInt64.toNat_sub_of_le _ _ (UInt64.le_iff_toNat_le.2 (by omega))]

/-- A signed word below zero counts as none. -/
def toUInt64 (a : Int64) : UInt64 := UInt64.ofNat a.toInt.toNat

theorem toNat_toUInt64 (a : Int64) : (toUInt64 a).toNat = a.toInt.toNat := by
  have := a.toInt_lt
  simp only [toUInt64, UInt64.toNat_ofNat']
  omega

end Entitlement.Saturating
