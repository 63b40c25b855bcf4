import Entitlement.Number.Decimal
import Entitlement.Proofs.Outcome

/-!
An integer written in decimal notation reads back as that integer (`readInt64_ofInt64`), so no two integers are
written alike. What is written consists of digits, behind a minus if the integer is below zero; what is read may also
have a plus or zeros in front, and nothing else (`readInt64_eq_ok_iff`).
-/

namespace Entitlement.Decimal

theorem isDigit_digitsOf {n : Nat} {c : Char} (member : c ∈ digitsOf n) : isDigit c = true := by
  have digit := Nat.isDigit_of_mem_toDigits (by decide) (by decide) member
  simpa only [isDigit, Char.isDigit, Char.le_def, ge_iff_le, Bool.and_eq_true, decide_eq_true_eq] using digit

theorem digitsOf_ne_nil (n : Nat) : digitsOf n ≠ [] := Nat.toDigits_ne_nil

/-- Only zero begins with a zero. -/
theorem head?_digitsOf {n : Nat} (positive : 0 < n) : (digitsOf n).head? ≠ some '0' := by
  induction n using Nat.strongRecOn with
  | ind n ih =>
    rcases Nat.lt_or_ge n 10 with single | several
    · have nonzero : ∀ d < 10, 0 < d → [Nat.digitChar d].head? ≠ some '0' := by decide
      rw [digitsOf, Nat.toDigits_of_lt_base single]
      exact nonzero n single positive
    · have front : digitsOf n = digitsOf (n / 10) ++ [(n % 10).digitChar] :=
        Nat.toDigits_of_base_le (by decide) several
      rw [front, List.head?_append, Option.or_of_isSome (List.isSome_head?.mpr (digitsOf_ne_nil _))]
      exact ih (n / 10) (by omega) (by omega)

theorem toNat_bounds {d : Char} (digit : isDigit d = true) : 0x30 ≤ d.toNat ∧ d.toNat ≤ 0x39 := by
  simp only [isDigit, Bool.and_eq_true, decide_eq_true_eq] at digit
  exact digit

theorem le_ofDigitChars (ds : List Char) (n : Nat) : n ≤ Nat.ofDigitChars 10 ds n := by
  induction ds generalizing n with
  | nil => exact Nat.le_of_eq Nat.ofDigitChars_nil.symm
  | cons d ds ih =>
    rw [Nat.ofDigitChars_cons]
    have more := ih (10 * n + (d.toNat - '0'.toNat))
    omega

/-- Digits are read if the number that they spell stays below the bound, since no number on the way is larger. -/
theorem readBelow_digits {bound acc : Nat} (overflow : ReadError) {ds : List Char}
    (digits : ∀ d ∈ ds, isDigit d = true) (fits : Nat.ofDigitChars 10 ds acc < bound) :
    readBelow bound acc overflow ds = .ok (Nat.ofDigitChars 10 ds acc) := by
  induction ds generalizing acc with
  | nil => rw [readBelow, Nat.ofDigitChars_nil]
  | cons d ds ih =>
    obtain ⟨first, rest⟩ := List.forall_mem_cons.mp digits
    rw [Nat.ofDigitChars_cons] at fits ⊢
    have small : 10 * acc + digitValue d < bound := Nat.lt_of_le_of_lt (le_ofDigitChars ds _) fits
    simp only [readBelow, first, Bool.not_true, Bool.false_eq_true, ↓reduceIte, if_pos small]
    exact ih rest fits

theorem readBelow_digitsOf {bound n : Nat} (overflow : ReadError) (fits : n < bound) :
    readBelow bound 0 overflow (digitsOf n) = .ok n := by
  have spelled : Nat.ofDigitChars 10 (digitsOf n) 0 = n := Nat.ofDigitChars_ten_toDigits
  rw [readBelow_digits overflow (fun _ member => isDigit_digitsOf member) (by rw [spelled]; exact fits), spelled]

theorem readInt64_minus (n : Nat) (fits : n ≤ 0x8000000000000000) :
    readInt64 (String.ofList ('-' :: digitsOf n)) = .ok (Int64.ofInt (-n)) := by
  have read : readBelow (Nat.pow 2 63 + 1) 0 .tooSmall (digitsOf n) = .ok n :=
    readBelow_digitsOf .tooSmall (Nat.lt_succ_of_le fits)
  unfold readInt64
  rw [String.toList_ofList]
  cases written : digitsOf n with
  | nil => exact (digitsOf_ne_nil n written).elim
  | cons d ds =>
    rw [written] at read
    simp only [read]
    rfl

theorem readInt64_plain (n : Nat) (fits : n < 0x8000000000000000) :
    readInt64 (String.ofList (digitsOf n)) = .ok (Int64.ofInt n) := by
  have read : readBelow (Nat.pow 2 63) 0 .tooLarge (digitsOf n) = .ok n := readBelow_digitsOf .tooLarge fits
  unfold readInt64
  rw [String.toList_ofList]
  cases written : digitsOf n with
  | nil => exact (digitsOf_ne_nil n written).elim
  | cons d ds =>
    have digit : isDigit d = true := isDigit_digitsOf (n := n) (by rw [written]; exact List.mem_cons_self)
    have noPlus : d ≠ '+' := by rintro rfl; cases digit
    have noMinus : d ≠ '-' := by rintro rfl; cases digit
    rw [written] at read
    split
    · next empty => cases empty
    · next sign => cases sign; exact (noPlus rfl).elim
    · next sign => cases sign; exact (noMinus rfl).elim
    · next sign => cases sign; exact (noMinus rfl).elim
    · next sign => cases sign; exact (noPlus rfl).elim
    · rw [read]
      rfl

theorem readInt64_ofInt64 (i : Int64) : readInt64 (ofInt64 i) = .ok i := by
  have above := i.le_toInt
  have below := i.toInt_lt
  unfold ofInt64 ofInt
  split
  · next negative =>
    rw [readInt64_minus _ (by omega), show -(i.toInt.natAbs : Int) = i.toInt by omega, Int64.ofInt_toInt]
  · next positive =>
    rw [readInt64_plain _ (by omega), show (i.toInt.natAbs : Int) = i.toInt by omega, Int64.ofInt_toInt]

theorem ofInt64_injective : Function.Injective ofInt64 := by
  intro i j same
  exact Except.ok.inj ((readInt64_ofInt64 i).symm.trans ((congrArg readInt64 same).trans (readInt64_ofInt64 j)))

theorem mem_ofInt64 {i : Int64} {c : Char} (member : c ∈ (ofInt64 i).toList) : c = '-' ∨ isDigit c = true := by
  unfold ofInt64 ofInt at member
  rw [String.toList_ofList] at member
  split at member
  · rcases List.mem_cons.mp member with rfl | digit
    · exact Or.inl rfl
    · exact Or.inr (isDigit_digitsOf digit)
  · exact Or.inr (isDigit_digitsOf member)

/-! ### What is read -/

/-- Digits, and at least one. -/
def IsNumeral (ds : List Char) : Prop := ds ≠ [] ∧ ∀ d ∈ ds, isDigit d = true

/-- A text spells an integer: it is a sign, if any, and the digits of the number. -/
inductive Spells : List Char → Int64 → Prop
  | plain {ds : List Char} {i : Int64} (numeral : IsNumeral ds) (value : i.toInt = Nat.ofDigitChars 10 ds 0) :
    Spells ds i
  | plus {ds : List Char} {i : Int64} (numeral : IsNumeral ds) (value : i.toInt = Nat.ofDigitChars 10 ds 0) :
    Spells ('+' :: ds) i
  | minus {ds : List Char} {i : Int64} (numeral : IsNumeral ds) (value : i.toInt = -Nat.ofDigitChars 10 ds 0) :
    Spells ('-' :: ds) i

theorem readBelow_eq_ok_iff {bound acc n : Nat} {overflow : ReadError} {cs : List Char} (small : acc < bound) :
    readBelow bound acc overflow cs = .ok n ↔
      (∀ c ∈ cs, isDigit c = true) ∧ Nat.ofDigitChars 10 cs acc = n ∧ n < bound := by
  constructor
  · intro read
    induction cs generalizing acc with
    | nil =>
      cases read
      exact ⟨nofun, Nat.ofDigitChars_nil, small⟩
    | cons c cs ih =>
      rw [readBelow] at read
      split at read
      · cases read
      · next digit =>
        simp only [Bool.not_eq_eq_eq_not, Bool.not_true, Bool.not_eq_false] at digit
        dsimp only at read
        split at read
        · next fits =>
          obtain ⟨digits, value, below⟩ := ih fits read
          exact ⟨List.forall_mem_cons.mpr ⟨digit, digits⟩, Nat.ofDigitChars_cons.trans value, below⟩
        · cases read
  · rintro ⟨digits, rfl, below⟩
    exact readBelow_digits overflow digits below

theorem ofInt_eq_iff {n : Int} {i : Int64} (above : -0x8000000000000000 ≤ n) (below : n < 0x8000000000000000) :
    Int64.ofInt n = i ↔ i.toInt = n := by
  rw [← Int64.toInt_inj, Int64.toInt_ofInt_of_le above below]
  exact eq_comm

theorem not_isNumeral_sign {c : Char} (sign : isDigit c = false) (ds : List Char) : ¬ IsNumeral (c :: ds) :=
  fun numeral => Bool.eq_false_iff.mp sign (numeral.2 c List.mem_cons_self)

theorem spells_plus_iff {ds : List Char} {i : Int64} :
    Spells ('+' :: ds) i ↔ IsNumeral ds ∧ i.toInt = Nat.ofDigitChars 10 ds 0 := by
  constructor
  · intro spells
    cases spells with
    | plain numeral => exact (not_isNumeral_sign rfl ds numeral).elim
    | plus numeral value => exact ⟨numeral, value⟩
  · exact fun ⟨numeral, value⟩ => .plus numeral value

theorem spells_minus_iff {ds : List Char} {i : Int64} :
    Spells ('-' :: ds) i ↔ IsNumeral ds ∧ i.toInt = -Nat.ofDigitChars 10 ds 0 := by
  constructor
  · intro spells
    cases spells with
    | plain numeral => exact (not_isNumeral_sign rfl ds numeral).elim
    | minus numeral value => exact ⟨numeral, value⟩
  · exact fun ⟨numeral, value⟩ => .minus numeral value

theorem spells_plain_iff {ds : List Char} {i : Int64} (noMinus : ∀ r, ds ≠ '-' :: r) (noPlus : ∀ r, ds ≠ '+' :: r) :
    Spells ds i ↔ IsNumeral ds ∧ i.toInt = Nat.ofDigitChars 10 ds 0 := by
  constructor
  · intro spells
    cases spells with
    | plain numeral value => exact ⟨numeral, value⟩
    | plus => exact (noPlus _ rfl).elim
    | minus => exact (noMinus _ rfl).elim
  · exact fun ⟨numeral, value⟩ => .plain numeral value

/-- The digits behind a sign, which `f` applies to their number. -/
theorem readMagnitude_iff (bound : Nat) (overflow : ReadError) (f : Int → Int) (positive : 0 < bound)
    {ds : List Char} {i : Int64} (someDigits : ds ≠ [])
    (inRange : ∀ n : Nat, n < bound ↔ -0x8000000000000000 ≤ f n ∧ f n < 0x8000000000000000) :
    (readBelow bound 0 overflow ds >>= fun n => pure (n : Int)).map (fun n => Int64.ofInt (f n)) = .ok i ↔
      IsNumeral ds ∧ i.toInt = f (Nat.ofDigitChars 10 ds 0) := by
  constructor
  · intro read
    obtain ⟨_, read, value⟩ := ok_of_map read
    obtain ⟨n, below, whole⟩ := ok_of_bind read
    cases whole
    obtain ⟨digits, rfl, fits⟩ := (readBelow_eq_ok_iff positive).mp below
    obtain ⟨above, below⟩ := (inRange _).mp fits
    exact ⟨⟨someDigits, digits⟩, (ofInt_eq_iff above below).mp value⟩
  · rintro ⟨⟨_, digits⟩, value⟩
    have above := i.le_toInt
    have below := i.toInt_lt
    rw [value] at above below
    rw [readBelow_digits overflow digits ((inRange _).mpr ⟨above, below⟩)]
    exact congrArg Except.ok ((ofInt_eq_iff above below).mpr value)

/-- A text is read as an integer if and only if it spells it. -/
theorem readInt64_eq_ok_iff {s : String} {i : Int64} : readInt64 s = .ok i ↔ Spells s.toList i := by
  have word : Nat.pow 2 63 = 0x8000000000000000 := rfl
  have unsigned {ds : List Char} (someDigits : ds ≠ []) :=
    readMagnitude_iff (Nat.pow 2 63) .tooLarge id (by decide) (i := i) someDigits fun n => by simp only [word, id]; omega
  have negative {ds : List Char} (someDigits : ds ≠ []) :=
    readMagnitude_iff (Nat.pow 2 63 + 1) .tooSmall (fun n => -n) (by decide) (i := i) someDigits
      fun n => by simp only [word]; omega
  have noDigits : ¬ IsNumeral [] := fun numeral => numeral.1 rfl
  unfold readInt64
  split
  · next empty =>
    rw [empty, spells_plain_iff (fun r => (List.cons_ne_nil '-' r).symm) (fun r => (List.cons_ne_nil '+' r).symm)]
    exact iff_of_false nofun fun spelled => noDigits spelled.1
  · next sign =>
    rw [sign, spells_plus_iff]
    exact iff_of_false nofun fun spelled => noDigits spelled.1
  · next sign =>
    rw [sign, spells_minus_iff]
    exact iff_of_false nofun fun spelled => noDigits spelled.1
  · next someDigits sign =>
    rw [sign, spells_minus_iff]
    exact negative someDigits
  · next someDigits sign =>
    rw [sign, spells_plus_iff]
    exact unsigned someDigits
  · next someDigits _ _ noMinus noPlus =>
    rw [spells_plain_iff noMinus noPlus]
    exact unsigned someDigits

theorem Spells.ne_nil {cs : List Char} {i : Int64} (spells : Spells cs i) : cs ≠ [] := by
  cases spells with
  | plain numeral => exact numeral.1
  | plus | minus => exact List.cons_ne_nil _ _

theorem Spells.exists_digit {cs : List Char} {i : Int64} (spells : Spells cs i) : ∃ d ∈ cs, isDigit d = true := by
  have digit {ds : List Char} (numeral : IsNumeral ds) : ∃ d ∈ ds, isDigit d = true := by
    obtain ⟨d, own⟩ := List.exists_mem_of_ne_nil ds numeral.1
    exact ⟨d, own, numeral.2 d own⟩
  cases spells with
  | plain numeral => exact digit numeral
  | plus numeral | minus numeral =>
    obtain ⟨d, own, isDigit⟩ := digit numeral
    exact ⟨d, List.mem_cons_of_mem _ own, isDigit⟩

/-- What spells an integer has no point. -/
theorem Spells.notMem_point {cs : List Char} {i : Int64} (spells : Spells cs i) : '.' ∉ cs := by
  have noPoint {ds : List Char} (numeral : IsNumeral ds) : '.' ∉ ds :=
    fun point => absurd (numeral.2 _ point) (by decide)
  cases spells with
  | plain numeral => exact noPoint numeral
  | plus numeral => exact List.not_mem_cons_of_ne_of_not_mem (by decide) (noPoint numeral)
  | minus numeral => exact List.not_mem_cons_of_ne_of_not_mem (by decide) (noPoint numeral)

end Entitlement.Decimal
