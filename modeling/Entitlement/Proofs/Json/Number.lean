import Entitlement.Json.Record
import Entitlement.Proofs.Number.Decimal
import Entitlement.Proofs.Text.Utf8

/-!
An integer in decimal notation reads back as that integer, up to the ends of its range (`readInt64_written`,
`readUInt64_written`). What follows it must be no further part of a number.
-/

namespace Entitlement.Json

theorem toNat_digit {d : Char} (digit : Decimal.isDigit d = true) : (Utf8.byte d.toNat).toNat = d.toNat := by
  have bounds := Decimal.toNat_bounds digit
  exact Utf8.toNat_byte (by omega)

/-- The bytes of a number in decimal notation. -/
theorem encode_digitsOf (n : Nat) :
    Utf8.encode (Decimal.digitsOf n) = (Decimal.digitsOf n).map fun d => Utf8.byte d.toNat := by
  refine Utf8.encode_ascii fun d member => ?_
  have bounds := Decimal.toNat_bounds (Decimal.isDigit_digitsOf member)
  omega

theorem isDigit_of_mem_encode {n : Nat} {b : UInt8} (member : b ∈ Utf8.encode (Decimal.digitsOf n)) :
    isDigit b = true := by
  rw [encode_digitsOf] at member
  obtain ⟨d, own, rfl⟩ := List.mem_map.mp member
  have digit := Decimal.isDigit_digitsOf own
  have bounds := Decimal.toNat_bounds digit
  simp only [isDigit, Bool.and_eq_true, decide_eq_true_eq, UInt8.le_iff_toNat_le, toNat_digit digit]
  exact bounds

theorem isBlank_of_isDigit {b : UInt8} (digit : isDigit b = true) : isBlank b = false := by
  have above : (0x30 : UInt8) ≤ b := by
    simp only [isDigit, Bool.and_eq_true, decide_eq_true_eq] at digit
    exact digit.1
  have blanks : ∀ c : UInt8, isBlank c = true → ¬ (0x30 : UInt8) ≤ c := by
    intro c blank
    simp only [isBlank, Bool.or_eq_true, decide_eq_true_eq] at blank
    rcases blank with ((rfl | rfl) | rfl) | rfl <;> decide
  exact Bool.eq_false_iff.mpr fun blank => blanks b blank above

theorem encode_digitsOf_ne_nil (n : Nat) : Utf8.encode (Decimal.digitsOf n) ≠ [] := by
  rw [encode_digitsOf]
  exact fun none => Decimal.digitsOf_ne_nil n (List.map_eq_nil_iff.mp none)

/-- There is no needless zero in front. -/
theorem noZero_digitsOf (n : Nat) : ¬ ((Utf8.encode (Decimal.digitsOf n)).head? = some (code '0') ∧
    1 < (Utf8.encode (Decimal.digitsOf n)).length) := by
  rintro ⟨zero, several⟩
  rw [encode_digitsOf, List.head?_map] at zero
  obtain ⟨d, first, same⟩ := Option.map_eq_some_iff.mp zero
  have isZero : d = '0' := by
    have value : (Utf8.byte d.toNat).toNat = '0'.toNat := by rw [same]; rfl
    rw [toNat_digit (Decimal.isDigit_digitsOf (List.mem_of_mem_head? first))] at value
    exact Char.toNat_inj.mp value
  rcases Nat.eq_zero_or_pos n with rfl | positive
  · exact absurd several (by decide)
  · exact Decimal.head?_digitsOf positive (isZero ▸ first)

/-- The digits spell the number. -/
theorem value_digitsOf (n : Nat) :
    (Utf8.encode (Decimal.digitsOf n)).foldl (fun m d => 10 * m + digitValue d) 0 = n := by
  have spelled {ds : List Char} (digits : ∀ d ∈ ds, Decimal.isDigit d = true) (acc : Nat) :
      (ds.map fun d => Utf8.byte d.toNat).foldl (fun m d => 10 * m + digitValue d) acc =
        Nat.ofDigitChars 10 ds acc := by
    induction ds generalizing acc with
    | nil => exact Nat.ofDigitChars_nil.symm
    | cons d ds ih =>
      obtain ⟨first, others⟩ := List.forall_mem_cons.mp digits
      rw [List.map_cons, List.foldl_cons, Nat.ofDigitChars_cons, ih others]
      exact congrArg (fun v => Nat.ofDigitChars 10 ds (10 * acc + (v - 0x30))) (toNat_digit first)
  rw [encode_digitsOf, spelled fun d member => Decimal.isDigit_digitsOf member]
  exact Nat.ofDigitChars_ten_toDigits

/-- A byte that cannot go on a number. -/
def endsNumber (b : UInt8) : Bool := !isDigit b && b ≠ code '.' && b ≠ code 'e' && b ≠ code 'E'

/-- Digits are read up to the first byte that is none. -/
theorem digits_append {ds rest : Bytes} (any : ds ≠ []) (all : ∀ d ∈ ds, isDigit d = true)
    (ends : ∀ b ∈ rest.head?, isDigit b = false) : digits (ds ++ rest) = .ok (ds, rest) := by
  have none : rest.takeWhile isDigit = [] ∧ rest.dropWhile isDigit = rest := by
    cases rest with
    | nil => exact ⟨rfl, rfl⟩
    | cons b rest =>
      rw [List.takeWhile_cons, List.dropWhile_cons, ends b rfl]
      exact ⟨rfl, rfl⟩
  rw [digits, List.takeWhile_append_of_pos all, List.dropWhile_append_of_pos all, none.1, none.2, List.append_nil]
  cases ds with
  | nil => exact (any rfl).elim
  | cons d ds => rfl

section Behind

variable {b : UInt8} (ends : endsNumber b = true) (rest : Bytes)
include ends

theorem digits_digitsOf (n : Nat) :
    digits (Utf8.encode (Decimal.digitsOf n) ++ b :: rest) = .ok (Utf8.encode (Decimal.digitsOf n), b :: rest) := by
  simp only [endsNumber, Bool.and_eq_true, Bool.not_eq_eq_eq_not, Bool.not_true] at ends
  refine digits_append (encode_digitsOf_ne_nil n) (fun _ => isDigit_of_mem_encode) fun c first => ?_
  cases first
  exact ends.1.1.1

theorem notationOf_digitsOf (negative : Bool) (n : Nat) :
    notationOf negative (Utf8.encode (Decimal.digitsOf n) ++ b :: rest) =
      .ok (⟨negative, Utf8.encode (Decimal.digitsOf n), none, none⟩, b :: rest) := by
  have run := digits_digitsOf ends rest n
  simp only [endsNumber, Bool.and_eq_true, decide_eq_true_eq] at ends
  obtain ⟨⟨⟨_, noPoint⟩, noSmall⟩, noLarge⟩ := ends
  simp only [notationOf, wholePart, run, if_neg (noZero_digitsOf n), fractionPart, if_neg noPoint, exponentPart,
    if_neg (not_or.mpr ⟨noSmall, noLarge⟩)]
  rfl

theorem number_unsigned {n : Nat} (fits : n ≤ maxWord) :
    number false (Utf8.encode (Decimal.digitsOf n) ++ b :: rest) = .ok (.unsigned (UInt64.ofNat n), b :: rest) := by
  simp only [number, notationOf_digitsOf ends rest, Notation.value, Notation.toWhole?, value_digitsOf, Option.isSome_none,
    Bool.or_self, Bool.false_eq_true, ↓reduceIte, Bool.not_false, if_pos fits]
  rfl

theorem number_negative {n : Nat} (positive : 0 < n) (fits : n ≤ 0x8000000000000000) :
    number true (Utf8.encode (Decimal.digitsOf n) ++ b :: rest) = .ok (.negative (Int64.ofInt (-n)), b :: rest) := by
  simp only [number, notationOf_digitsOf ends rest, Notation.value, Notation.toWhole?, value_digitsOf, Option.isSome_none,
    Bool.or_self, Bool.false_eq_true, ↓reduceIte, Bool.not_true, if_pos (And.intro positive fits)]
  rfl

/-! ### Numbers of a record -/

/-- Digits begin a number without a sign. -/
theorem readNumber_plain {n : Nat} (fits : n ≤ maxWord) :
    readNumber (Utf8.encode (Decimal.digitsOf n) ++ b :: rest) = .ok (.unsigned (UInt64.ofNat n), b :: rest) := by
  have read := number_unsigned ends rest fits
  cases written : Utf8.encode (Decimal.digitsOf n) with
  | nil => exact (encode_digitsOf_ne_nil n written).elim
  | cons d ds =>
    have digit : isDigit d = true := isDigit_of_mem_encode (n := n) (by rw [written]; exact List.mem_cons_self)
    have noBlank : isBlank d = false := isBlank_of_isDigit digit
    have noMinus : d ≠ code '-' := by rintro rfl; cases digit
    rw [written, List.cons_append] at read
    rw [List.cons_append, readNumber, fromFirst, skipBlank, List.dropWhile_cons, noBlank]
    simp only [Bool.false_eq_true, ↓reduceIte, if_neg noMinus, digit, read]

theorem readNumber_minus {n : Nat} (positive : 0 < n) (fits : n ≤ 0x8000000000000000) :
    readNumber (Utf8.encode ('-' :: Decimal.digitsOf n) ++ b :: rest) =
      .ok (.negative (Int64.ofInt (-n)), b :: rest) := by
  show number true (Utf8.encode (Decimal.digitsOf n) ++ b :: rest) = _
  exact number_negative ends rest positive fits

theorem readUInt64_written (n : UInt64) :
    readUInt64 (utf8 (Decimal.ofUInt64 n) ++ b :: rest) = .ok (n, b :: rest) := by
  have fits : n.toNat ≤ maxWord := Nat.le_pred_of_lt n.toNat_lt_size
  rw [readUInt64, Decimal.ofUInt64, utf8, String.toList_ofList, readNumber_plain ends rest fits, UInt64.ofNat_toNat]
  rfl

theorem readInt64_written (i : Int64) : readInt64 (utf8 (Decimal.ofInt64 i) ++ b :: rest) = .ok (i, b :: rest) := by
  have above := i.le_toInt
  have below := i.toInt_lt
  rw [readInt64, Decimal.ofInt64, Decimal.ofInt, utf8, String.toList_ofList]
  split
  · next negative =>
    rw [readNumber_minus ends rest (n := i.toInt.natAbs) (by omega) (by omega),
      show -(i.toInt.natAbs : Int) = i.toInt by omega, Int64.ofInt_toInt]
    rfl
  · next positive =>
    have small : i.toInt.natAbs < 0x8000000000000000 := by omega
    have word : (UInt64.ofNat i.toInt.natAbs).toNat = i.toInt.natAbs :=
      UInt64.toNat_ofNat_of_lt' (Nat.lt_trans small (by decide))
    rw [readNumber_plain ends rest (Nat.le_trans (Nat.le_of_lt small) (by decide))]
    simp only [narrow, Number.asInt64?, word, if_pos small]
    rw [show (i.toInt.natAbs : Int) = i.toInt by omega, Int64.ofInt_toInt]

end Behind

end Entitlement.Json
