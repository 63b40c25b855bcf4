import Entitlement.Json.Text
import Entitlement.Json.Writer
import Entitlement.Proofs.Text.Utf8

/-!
A string reads back as the text it was written for (`string_written`). A character is written as its own bytes, none of
which means anything in a string, or as an escape that stands for it.
-/

namespace Entitlement.Json

/-! ### Characters that stand for themselves -/

/-- A byte that a string may contain as it is. -/
def isPlain (b : UInt8) : Bool := b ≠ code '"' && b ≠ code '\\' && 0x20 ≤ b

theorem unescape_plain {bs : Bytes} (plain : ∀ b ∈ bs, isPlain b = true) (fuel : Nat) (rest : Bytes) :
    unescape (fuel + bs.length) (bs ++ rest) = (unescape fuel rest).map fun (more, r) => (bs ++ more, r) := by
  induction bs with
  | nil =>
    show unescape fuel rest = _
    cases unescape fuel rest <;> rfl
  | cons b bs ih =>
    obtain ⟨first, others⟩ := List.forall_mem_cons.mp plain
    simp only [isPlain, ne_eq, Bool.and_eq_true, decide_eq_true_eq] at first
    obtain ⟨⟨noQuote, noBackslash⟩, noControl⟩ := first
    have behind := ih others
    rw [List.cons_append, List.length_cons, ← Nat.add_assoc, unescape, if_neg noQuote, if_neg noBackslash,
      if_neg (UInt8.not_lt.mpr noControl), behind]
    cases unescape fuel rest <;> rfl

theorem isPlain_of_high {b : UInt8} (high : 0x80 ≤ b.toNat) : isPlain b = true := by
  have noQuote : b ≠ code '"' := by rintro rfl; exact absurd high (by decide)
  have noBackslash : b ≠ code '\\' := by rintro rfl; exact absurd high (by decide)
  have noControl : (0x20 : UInt8) ≤ b := UInt8.le_iff_toNat_le.mpr (Nat.le_trans (by decide) high)
  simp only [isPlain, ne_eq, noQuote, noBackslash, noControl, not_false_eq_true, decide_true, Bool.and_self]

theorem isPlain_of_mem_encodeChar {c : Char} (noQuote : c ≠ '"') (noBackslash : c ≠ '\\') (noControl : 0x20 ≤ c.toNat)
    {b : UInt8} (member : b ∈ Utf8.encodeChar c) : isPlain b = true := by
  by_cases wide : 0x80 ≤ c.toNat
  · exact isPlain_of_high (Utf8.high_of_mem_encodeChar wide member)
  -- The one byte of a character in ASCII is its code.
  have single : Utf8.encodeChar c = [Utf8.byte c.toNat] := if_pos (Nat.lt_of_not_le wide)
  rw [single, List.mem_singleton] at member
  have value : b.toNat = c.toNat := by rw [member, Utf8.toNat_byte (by omega)]
  have own {d : Char} (other : c ≠ d) (ascii : d.toNat < 0x80) : b ≠ code d := by
    intro same
    have equal : b.toNat = d.toNat := by rw [same]; exact Utf8.toNat_byte (by omega)
    exact other (Char.toNat_inj.mp (value.symm.trans equal))
  have visible : (0x20 : UInt8) ≤ b := UInt8.le_iff_toNat_le.mpr (value ▸ noControl)
  simp only [isPlain, ne_eq, own noQuote (by decide), own noBackslash (by decide), visible, not_false_eq_true,
    decide_true, Bool.and_self]

/-! ### Escapes -/

theorem hexDigit_ascii {n : Nat} (small : n < 16) : (hexDigit n).toNat < 0x80 := by
  decide +revert

theorem hexValue?_hexDigit {n : Nat} (small : n < 16) : hexValue? (Utf8.byte (hexDigit n).toNat) = some n := by
  decide +revert

theorem encode_control {n : Nat} (small : n < 0x100) :
    Utf8.encode ['u', '0', '0', hexDigit (n / 16), hexDigit (n % 16)] =
      ['u', '0', '0', hexDigit (n / 16), hexDigit (n % 16)].map fun d => Utf8.byte d.toNat := by
  refine Utf8.encode_ascii ?_
  simp only [List.mem_cons, List.not_mem_nil, or_false]
  rintro d (rfl | rfl | rfl | rfl | rfl)
  · decide
  · decide
  · decide
  · exact hexDigit_ascii (by omega)
  · exact hexDigit_ascii (Nat.mod_lt _ (by decide))

/-- A control character that has no letter of its own. -/
theorem escape_control {c : Char} (control : c.toNat < 0x20) (rest : Bytes) :
    escape (Utf8.encode ['u', '0', '0', hexDigit (c.toNat / 16), hexDigit (c.toNat % 16)] ++ rest) =
      .ok (Utf8.encodeChar c, rest) := by
  have high : c.toNat / 16 < 16 := by omega
  have low : c.toNat % 16 < 16 := Nat.mod_lt _ (by decide)
  have zero : hexValue? (Utf8.byte '0'.toNat) = some 0 := hexValue?_hexDigit (n := 0) (by decide)
  have spelled : 0x1000 * 0 + 0x100 * 0 + 0x10 * (c.toNat / 16) + c.toNat % 16 = c.toNat := by omega
  have noHalf : isLowSurrogate c.toNat = false ∧ isHighSurrogate c.toNat = false := by
    simp only [isLowSurrogate, isHighSurrogate, Bool.and_eq_false_iff, decide_eq_false_iff_not]
    omega
  have noLetter : simpleEscape? (Utf8.byte 'u'.toNat) = none := by decide
  have mark : ¬ Utf8.byte 'u'.toNat ≠ code 'u' := by decide
  rw [encode_control (by omega)]
  simp only [List.map_cons, List.map_nil, List.cons_append, List.nil_append, escape, noLetter, if_neg mark, hexEscape,
    zero, hexValue?_hexDigit high, hexValue?_hexDigit low, spelled, noHalf.1, noHalf.2, Bool.false_eq_true, ↓reduceIte,
    Char.ofNat_toNat]

/-- A character is written as an escape for it, or as itself if a string may contain it. -/
theorem escapeChar_cases (c : Char) :
    (∃ letters, escapeChar c = '\\' :: letters ∧
      ∀ rest, escape (Utf8.encode letters ++ rest) = .ok (Utf8.encodeChar c, rest)) ∨
    (escapeChar c = [c] ∧ ∀ b ∈ Utf8.encodeChar c, isPlain b = true) := by
  unfold escapeChar
  split
  · next special =>
    rcases special with rfl | rfl
    · exact Or.inl ⟨_, rfl, fun rest => rfl⟩
    · exact Or.inl ⟨_, rfl, fun rest => rfl⟩
  next special =>
  split
  · next letter => subst letter; exact Or.inl ⟨_, rfl, fun rest => rfl⟩
  split
  · next letter => subst letter; exact Or.inl ⟨_, rfl, fun rest => rfl⟩
  split
  · next letter => subst letter; exact Or.inl ⟨_, rfl, fun rest => rfl⟩
  split
  · next letter => subst letter; exact Or.inl ⟨_, rfl, fun rest => rfl⟩
  split
  · next letter => subst letter; exact Or.inl ⟨_, rfl, fun rest => rfl⟩
  split
  · next control => exact Or.inl ⟨_, rfl, escape_control control⟩
  · next control =>
    obtain ⟨noQuote, noBackslash⟩ := not_or.mp special
    exact Or.inr ⟨rfl, fun b => isPlain_of_mem_encodeChar noQuote noBackslash (Nat.le_of_not_lt control)⟩

/-! ### Strings -/

/-- What is written for one character is read as its bytes, whatever follows. -/
theorem unescape_escapeChar (c : Char) : ∃ steps ≤ (Utf8.encode (escapeChar c)).length, ∀ fuel rest,
    unescape (fuel + steps) (Utf8.encode (escapeChar c) ++ rest) =
      (unescape fuel rest).map fun (more, r) => (Utf8.encodeChar c ++ more, r) := by
  rcases escapeChar_cases c with ⟨letters, written, read⟩ | ⟨written, plain⟩
  · have backslash : Utf8.encode ('\\' :: letters) = code '\\' :: Utf8.encode letters := rfl
    have noQuote : code '\\' ≠ code '"' := by decide
    refine ⟨1, ?_, fun fuel rest => ?_⟩
    · rw [written, backslash]
      exact Nat.succ_pos _
    · rw [written, backslash, List.cons_append, unescape, if_neg noQuote, if_pos rfl, read rest]
  · have own : Utf8.encode [c] = Utf8.encodeChar c := List.append_nil _
    rw [written, own]
    exact ⟨_, Nat.le_refl _, unescape_plain plain⟩

theorem unescape_written (cs : List Char) (fuel : Nat) (rest : Bytes)
    (enough : (Utf8.encode (cs.flatMap escapeChar)).length < fuel) :
    unescape fuel (Utf8.encode (cs.flatMap escapeChar) ++ code '"' :: rest) = .ok (Utf8.encode cs, rest) := by
  induction cs generalizing fuel with
  | nil =>
    obtain ⟨fuel, rfl⟩ := Nat.exists_eq_add_of_lt enough
    show unescape (_ + fuel + 1) (code '"' :: rest) = _
    rw [unescape, if_pos rfl]
    rfl
  | cons c cs ih =>
    obtain ⟨steps, few, read⟩ := unescape_escapeChar c
    have apart : Utf8.encode ((c :: cs).flatMap escapeChar) =
        Utf8.encode (escapeChar c) ++ Utf8.encode (cs.flatMap escapeChar) := by
      rw [List.flatMap_cons]
      exact List.flatMap_append
    rw [apart, List.length_append] at enough
    have left : fuel = fuel - steps + steps := by omega
    rw [apart, List.append_assoc, left, read, ih _ (by omega)]
    rfl

/-- A written string, whose opening quote has been read. -/
theorem string_written (s : String) (rest : Bytes) :
    string (Utf8.encode (s.toList.flatMap escapeChar) ++ code '"' :: rest) = .ok (s, rest) := by
  have enough : (Utf8.encode (s.toList.flatMap escapeChar)).length <
      (Utf8.encode (s.toList.flatMap escapeChar) ++ code '"' :: rest).length := by
    rw [List.length_append, List.length_cons]
    omega
  rw [string, unescape_written _ _ _ enough]
  simp only [Utf8.decode?_encode, String.ofList_toList]

end Entitlement.Json
