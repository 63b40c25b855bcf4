import Entitlement.Number.Binary64
import Entitlement.Proofs.Number.Decimal
import Mathlib.Data.List.TakeWhile

/-!
What is read as a float has one point at most (`count_point_read?`), wherever its digits and its exponent stand.
-/

namespace Entitlement.Binary64

theorem count_point_digits {cs : List Char} (digits : ∀ c ∈ cs, Decimal.isDigit c = true) : cs.count '.' = 0 :=
  List.count_eq_zero.mpr fun point => absurd (digits _ point) (by decide)

theorem count_point_takeWhile (cs : List Char) : (cs.takeWhile Decimal.isDigit).count '.' = 0 :=
  count_point_digits fun _ own => List.mem_takeWhile_imp own

theorem count_point_readExponent? {cs : List Char} {e : Int} (read : readExponent? cs = some e) :
    cs.count '.' = 0 := by
  have spelled {ds : List Char} (right : ¬ (ds.isEmpty || !ds.all Decimal.isDigit) = true) : ds.count '.' = 0 := by
    simp only [Bool.or_eq_true, Bool.not_eq_eq_eq_not, Bool.not_true, not_or, Bool.not_eq_false] at right
    exact count_point_digits (List.all_eq_true.mp right.2)
  unfold readExponent? at read
  dsimp only at read
  split at read
  all_goals
    dsimp only at read
    split at read
    · cases read
  · next right =>
    rw [List.count_cons_of_ne (by decide)]
    exact spelled right
  · next right =>
    rw [List.count_cons_of_ne (by decide)]
    exact spelled right
  · next right => exact spelled right

/-- Digits, a point and digits, then perhaps an exponent: there is one point at most. -/
theorem count_point_readUnsigned? {cs : List Char} {x : Float} (read : readUnsigned? cs = some x) :
    cs.count '.' ≤ 1 := by
  have passed (cs : List Char) : (cs.dropWhile Decimal.isDigit).count '.' = cs.count '.' := by
    have whole := congrArg (List.count '.') (List.takeWhile_append_dropWhile (p := Decimal.isDigit) (l := cs))
    rwa [List.count_append, count_point_takeWhile, Nat.zero_add] at whole
  have exponent {rest : List Char} (ends : ∀ c r, rest = c :: r →
      ∃ value : Int → Float, (if c = 'e' ∨ c = 'E' then (readExponent? r).map value else none) = some x) :
      rest.count '.' = 0 := by
    cases rest with
    | nil => rfl
    | cons c r =>
      obtain ⟨value, ends⟩ := ends c r rfl
      split at ends
      · next mark =>
        obtain ⟨e, read, _⟩ := Option.map_eq_some_iff.mp ends
        rw [List.count_cons_of_ne (by rcases mark with rfl | rfl <;> decide), count_point_readExponent? read]
      · cases ends
  unfold readUnsigned? at read
  dsimp only at read
  rw [← passed cs]
  split at read
  all_goals
    dsimp only at read
    split at read
    · cases read
  · next r rest _ =>
    rw [rest, List.count_cons_self, ← passed r, exponent fun c r' same => ?_]
    rw [same] at read
    exact ⟨_, read⟩
  · rw [exponent fun c r same => ?_]
    · exact Nat.zero_le 1
    · rw [same] at read
      exact ⟨_, read⟩

theorem count_point_read? {s : String} {x : Float} (read : read? s = some x) : s.toList.count '.' ≤ 1 := by
  have unsigned {cs : List Char} {y : Float}
      (magnitude : (if String.ofList (cs.map Char.toLower) = "inf" ∨ String.ofList (cs.map Char.toLower) = "infinity"
          then some (1 / 0)
        else if String.ofList (cs.map Char.toLower) = "nan" then some (0 / 0)
        else readUnsigned? cs) = some y) : cs.count '.' ≤ 1 := by
    have word {name : String} (same : String.ofList (cs.map Char.toLower) = name)
        (free : '.' ∉ name.toList) : cs.count '.' ≤ 1 := by
      have absent : '.' ∉ cs := by
        rw [← same, String.toList_ofList] at free
        exact fun point => free (List.mem_map_of_mem (f := Char.toLower) point)
      rw [List.count_eq_zero.mpr absent]
      exact Nat.zero_le 1
    split at magnitude
    · next infinite => rcases infinite with same | same <;> exact word same (by decide)
    split at magnitude
    · next none => exact word none (by decide)
    · exact count_point_readUnsigned? magnitude
  unfold read? at read
  dsimp only at read
  obtain ⟨y, magnitude, _⟩ := Option.map_eq_some_iff.mp read
  split at magnitude
  · next whole =>
    rw [whole, List.count_cons_of_ne (by decide)]
    exact unsigned magnitude
  · next whole =>
    rw [whole, List.count_cons_of_ne (by decide)]
    exact unsigned magnitude
  · exact unsigned magnitude

end Entitlement.Binary64
