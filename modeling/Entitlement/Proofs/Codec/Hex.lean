import Entitlement.Codec.Hex
import Entitlement.Proofs.Text.Utf8
import Mathlib

/-!
Bytes written as hexadecimal digits read back as those bytes (`decode_encode`). What is read at all are the texts that
spell bytes digit by digit, in letters of either case (`decode_eq_ok_iff`).
-/

namespace Entitlement.Hex

theorem digit_ne_lineFeed {n : Nat} (small : n < 16) : digit n ≠ '\n' := by
  decide +revert

/-- The two digits of a byte. -/
theorem halves_lt (b : UInt8) : b.toNat / 16 < 16 ∧ b.toNat % 16 < 16 := by
  have small := b.toNat_lt
  omega

theorem mem_encode {bs : Bytes} {c : Char} (member : c ∈ (encode bs).toList) : ∃ n < 16, c = digit n := by
  rw [encode, String.toList_ofList] at member
  obtain ⟨b, _, own⟩ := List.mem_flatMap.mp member
  obtain ⟨high, low⟩ := halves_lt b
  rcases List.mem_cons.mp own with rfl | own
  · exact ⟨_, high, rfl⟩
  · exact ⟨_, low, List.mem_singleton.mp own⟩

/-! ### Reading -/

/-- What a digit stands for: its place among the sixteen, whatever the case. -/
def digitValue? (c : Char) : Option Nat := "0123456789abcdef".toList.idxOf? c.toLower

/-- The halves of bytes, the high half of each first. -/
def halves (bs : Bytes) : List Nat := bs.flatMap fun b => [b.toNat / 16, b.toNat % 16]

/-- Each character is the digit of half a byte. -/
def Spells (digits : List Char) (bs : Bytes) : Prop := digits.map digitValue? = (halves bs).map some

instance (digits : List Char) (bs : Bytes) : Decidable (Spells digits bs) :=
  inferInstanceAs (Decidable (_ = _))

theorem halves_cons (b : UInt8) (bs : Bytes) : halves (b :: bs) = b.toNat / 16 :: b.toNat % 16 :: halves bs := rfl

theorem length_halves (bs : Bytes) : (halves bs).length = 2 * bs.length := by
  induction bs with
  | nil => rfl
  | cons b bs ih =>
    rw [halves_cons, List.length_cons, List.length_cons, List.length_cons, ih]
    omega

theorem Spells.length {digits : List Char} {bs : Bytes} (spells : Spells digits bs) :
    digits.length = 2 * bs.length := by
  have lengths := congrArg List.length spells
  rwa [List.length_map, List.length_map, length_halves] at lengths

theorem digitValue?_toLower (c : Char) : digitValue? c.toLower = digitValue? c := by
  rw [digitValue?, digitValue?, Char.toLower_toLower_eq_toLower]

theorem digitValue?_wide {c : Char} (wide : 0x80 ≤ c.toNat) : digitValue? c = none := by
  have noCapital : ¬ c.isUpper = true := by
    intro capital
    simp only [Char.isUpper, decide_eq_true_eq] at capital
    have last : c.toNat ≤ 'Z'.toNat := UInt32.le_iff_toNat_le.mp capital.2
    exact absurd (Nat.le_trans wide last) (by decide)
  rw [digitValue?, Char.toLower_eq_of_not_isUpper noCapital, List.idxOf?_eq_none_iff]
  intro own
  have ascii : ("0123456789abcdef".toList.all fun d => d.toNat < 0x80) = true := by decide
  exact Nat.not_lt.mpr wide (of_decide_eq_true (List.all_eq_true.mp ascii c own))

theorem value?_ascii {c : Char} (ascii : c.toNat < 0x80) : value? (Utf8.byte c.toNat) = digitValue? c := by
  have same : ∀ n < 0x80, value? (Utf8.byte n) = digitValue? (Char.ofNat n) := by decide
  rw [same c.toNat ascii, Char.ofNat_toNat]

theorem value?_high {b : UInt8} (high : 0x80 ≤ b.toNat) : value? b = none := by
  unfold value?
  rw [if_neg (by omega), if_neg (by omega), if_neg (by omega)]

theorem value?_lt {b : UInt8} {n : Nat} (digit : value? b = some n) : n < 16 := by
  unfold value? at digit
  dsimp only at digit
  split at digit
  · cases digit
    omega
  split at digit
  · cases digit
    omega
  split at digit
  · cases digit
    omega
  · cases digit

/-- The bytes of a text are digits exactly where its characters are. -/
theorem map_value?_encode {cs : List Char} {ns : List Nat} :
    (Utf8.encode cs).map value? = ns.map some ↔ cs.map digitValue? = ns.map some := by
  induction cs generalizing ns with
  | nil => rfl
  | cons c cs ih =>
    rw [Utf8.encode, List.flatMap_cons]
    by_cases ascii : c.toNat < 0x80
    · have single : Utf8.encodeChar c = [Utf8.byte c.toNat] := if_pos ascii
      rw [single, List.singleton_append, List.map_cons, List.map_cons, value?_ascii ascii]
      cases ns with
      | nil => exact iff_of_false (List.cons_ne_nil _ _) (List.cons_ne_nil _ _)
      | cons n ns => rw [List.map_cons, List.cons.injEq, List.cons.injEq, ← Utf8.encode, ih]
    · obtain ⟨b, bs, bytes, _⟩ := Utf8.next_encodeChar c []
      have high := Utf8.high_of_mem_encodeChar (Nat.le_of_not_lt ascii) (bytes ▸ List.mem_cons_self)
      rw [bytes, List.cons_append, List.map_cons, List.map_cons, value?_high high,
        digitValue?_wide (Nat.le_of_not_lt ascii)]
      cases ns <;> simp only [List.map_nil, List.map_cons, List.cons.injEq, reduceCtorEq, false_and]

/-- A byte is told by its halves. -/
theorem byte_eq_iff {h l : Nat} (high : h < 16) (low : l < 16) (b : UInt8) :
    UInt8.ofNat (16 * h + l) = b ↔ h = b.toNat / 16 ∧ l = b.toNat % 16 := by
  have value : (UInt8.ofNat (16 * h + l)).toNat = 16 * h + l := Utf8.toNat_byte (by omega)
  rw [← UInt8.toNat_inj, value]
  omega

theorem decodePairs_eq_ok_iff {position : Nat} {digits bs : Bytes} :
    decodePairs position digits = .ok bs ↔ digits.map value? = (halves bs).map some := by
  fun_induction decodePairs position digits generalizing bs with
  | case1 position high low r no_digit =>
    cases bs with
    | nil => exact iff_of_false nofun nofun
    | cons b bs =>
      refine iff_of_false nofun fun same => ?_
      cases no_digit.symm.trans (List.cons.inj same).1
  | case2 position high low r h no_digit _ =>
    cases bs with
    | nil => exact iff_of_false nofun nofun
    | cons b bs =>
      refine iff_of_false nofun fun same => ?_
      cases no_digit.symm.trans (List.cons.inj (List.cons.inj same).2).1
  | case3 position high low r h l lowValue highValue ih =>
    have read : (decodePairs (position + 2) r).map (UInt8.ofNat (16 * h + l) :: ·) = .ok bs ↔
        ∃ more, decodePairs (position + 2) r = .ok more ∧ UInt8.ofNat (16 * h + l) :: more = bs := by
      cases decodePairs (position + 2) r <;> simp [Except.map]
    rw [read, List.map_cons, List.map_cons, highValue, lowValue]
    cases bs with
    | nil => simp [halves]
    | cons b bs =>
      simp only [ih, List.cons.injEq, halves_cons, List.map_cons, Option.some.injEq,
        byte_eq_iff (value?_lt highValue) (value?_lt lowValue)]
      constructor
      · rintro ⟨_, same, ⟨above, below⟩, rfl⟩
        exact ⟨above, below, same⟩
      · rintro ⟨above, below, same⟩
        exact ⟨bs, same, ⟨above, below⟩, rfl⟩
  | case4 position b =>
    refine iff_of_false nofun fun same => ?_
    have lengths := congrArg List.length same
    rw [List.length_map, List.length_map, length_halves, List.length_singleton] at lengths
    omega
  | case5 position =>
    cases bs with
    | nil => exact iff_of_true rfl rfl
    | cons b bs => exact iff_of_false nofun nofun

theorem decode_eq_ok_iff {text : String} {bs : Bytes} : decode text = .ok bs ↔ Spells text.toList bs := by
  rw [Spells, ← map_value?_encode, ← @decodePairs_eq_ok_iff 0, decode]
  by_cases odd : (utf8 text).length % 2 = 1
  · rw [if_pos odd]
    refine iff_of_false nofun fun read => ?_
    -- Bytes are spelled by two digits each.
    have lengths := congrArg List.length (decodePairs_eq_ok_iff.mp read)
    rw [List.length_map, List.length_map, length_halves] at lengths
    rw [utf8, lengths] at odd
    omega
  · rw [if_neg odd]
    exact Iff.rfl

theorem digitValue?_lt {c : Char} {n : Nat} (digit : digitValue? c = some n) : n < 16 := by
  by_cases ascii : c.toNat < 0x80
  · rw [← value?_ascii ascii] at digit
    exact value?_lt digit
  · rw [digitValue?_wide (Nat.le_of_not_lt ascii)] at digit
    cases digit

/-- Twice as many digits as bytes spell some bytes. -/
theorem exists_spells {n : Nat} {digits : List Char} (length : digits.length = 2 * n)
    (each : ∀ c ∈ digits, (digitValue? c).isSome) : ∃ bs, Spells digits bs := by
  induction n generalizing digits with
  | zero =>
    rw [List.eq_nil_of_length_eq_zero length]
    exact ⟨[], rfl⟩
  | succ n ih =>
    match digits, length with
    | high :: low :: r, length =>
      simp only [List.forall_mem_cons, Option.isSome_iff_exists] at each
      obtain ⟨⟨h, highValue⟩, ⟨l, lowValue⟩, others⟩ := each
      have shorter : r.length = 2 * n := by
        rw [List.length_cons, List.length_cons] at length
        omega
      obtain ⟨bs, spells⟩ := ih shorter fun c own => Option.isSome_iff_exists.mpr (others c own)
      obtain ⟨above, below⟩ := (byte_eq_iff (digitValue?_lt highValue) (digitValue?_lt lowValue) _).mp rfl
      refine ⟨UInt8.ofNat (16 * h + l) :: bs, ?_⟩
      rw [Spells, halves_cons, List.map_cons, List.map_cons, List.map_cons, List.map_cons, highValue, lowValue, ← above,
        ← below, spells]

/-- Which digits are in capitals does not matter. -/
theorem spells_toLower {digits : List Char} {bs : Bytes} : Spells (digits.map Char.toLower) bs ↔ Spells digits bs := by
  have same : digitValue? ∘ Char.toLower = digitValue? := funext digitValue?_toLower
  rw [Spells, Spells, List.map_map, same]

theorem digitValue?_digit {n : Nat} (small : n < 16) : digitValue? (digit n) = some n := by
  decide +revert

theorem spells_encode (bs : Bytes) : Spells (encode bs).toList bs := by
  rw [Spells, encode, String.toList_ofList]
  induction bs with
  | nil => rfl
  | cons b bs ih =>
    obtain ⟨high, low⟩ := halves_lt b
    rw [List.flatMap_cons, List.map_append, ih, halves_cons]
    simp only [List.map_cons, List.map_nil, digitValue?_digit high, digitValue?_digit low, List.cons_append,
      List.nil_append]

theorem decode_encode (bs : Bytes) : decode (encode bs) = .ok bs := decode_eq_ok_iff.mpr (spells_encode bs)

theorem Spells.digits {digits : List Char} {bs : Bytes} (spells : Spells digits bs) {c : Char} (own : c ∈ digits) :
    (digitValue? c).isSome := by
  have value : digitValue? c ∈ (halves bs).map some := spells ▸ List.mem_map_of_mem own
  obtain ⟨n, _, same⟩ := List.mem_map.mp value
  rw [← same, Option.isSome_some]

end Entitlement.Hex
