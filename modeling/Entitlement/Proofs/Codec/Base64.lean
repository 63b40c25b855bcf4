import Entitlement.Codec.Base64
import Entitlement.Proofs.Text.Utf8

/-!
Bytes written in base64 read back as those bytes (`decode_encode`). A last group is read apart from the others, so
the induction by groups of three bytes looks whether anything follows.
-/

namespace Entitlement.Base64

/-- The byte that the symbol is read from. -/
def code (n : Nat) : UInt8 := Utf8.byte (symbol n).toNat

theorem symbol_ascii {n : Nat} (small : n < 64) : (symbol n).toNat < 0x80 := by
  decide +revert

theorem value?_code {n : Nat} (small : n < 64) : value? (code n) = some n := by
  decide +revert

theorem code_ne_pad {n : Nat} (small : n < 64) : code n ≠ pad := by
  decide +revert

theorem encodeChars_ascii (bs : Bytes) : ∀ c ∈ encodeChars bs, c.toNat < 0x80 := by
  have padded : ('=' : Char).toNat < 0x80 := by decide
  fun_induction encodeChars bs with
  | case1 a b c r n ih =>
    have := a.toNat_lt
    have := b.toNat_lt
    have := c.toNat_lt
    simp only [List.forall_mem_cons]
    exact ⟨symbol_ascii (by omega), symbol_ascii (by omega), symbol_ascii (by omega), symbol_ascii (by omega), ih⟩
  | case2 a b n =>
    have := a.toNat_lt
    have := b.toNat_lt
    simp only [List.forall_mem_cons]
    exact ⟨symbol_ascii (by omega), symbol_ascii (by omega), symbol_ascii (by omega), padded, nofun⟩
  | case3 a n =>
    have := a.toNat_lt
    simp only [List.forall_mem_cons]
    exact ⟨symbol_ascii (by omega), symbol_ascii (by omega), padded, padded, nofun⟩
  | case4 => nofun

theorem utf8_encode (bs : Bytes) : utf8 (encode bs) = (encodeChars bs).map fun c => Utf8.byte c.toNat := by
  rw [utf8, encode, String.toList_ofList, Utf8.encode_ascii (encodeChars_ascii bs)]

theorem length_encodeChars (bs : Bytes) : (encodeChars bs).length % 4 = 0 := by
  fun_induction encodeChars bs with
  | case1 a b c r n ih => simp only [List.length_cons]; omega
  | case2 | case3 | case4 => simp only [List.length_cons, List.length_nil]

theorem encodeChars_cons (b : UInt8) (bs : Bytes) : ∃ c cs, encodeChars (b :: bs) = c :: cs := by
  match bs with
  | _ :: _ :: _ | [_] | [] => exact ⟨_, _, rfl⟩

/-! ### Reading -/

/-- A group of four symbols that is not the last one. -/
theorem decodeGroups_code {start w x y z : Nat} (hw : w < 64) (hx : x < 64) (hy : y < 64) (hz : z < 64) (e : UInt8)
    (r : Bytes) :
    decodeGroups start (code w :: code x :: code y :: code z :: e :: r) =
      (decodeGroups (start + 4) (e :: r)).map fun rest =>
        UInt8.ofNat ((w * 0x40000 + x * 0x1000 + y * 0x40 + z) / 0x10000) ::
          UInt8.ofNat ((w * 0x40000 + x * 0x1000 + y * 0x40 + z) / 0x100 % 0x100) ::
          UInt8.ofNat ((w * 0x40000 + x * 0x1000 + y * 0x40 + z) % 0x100) :: rest := by
  simp only [decodeGroups, value?_code hw, value?_code hx, value?_code hy, value?_code hz]

theorem readFinal_code {start index n : Nat} {f : Final} (small : n < 64) (unpadded : f.pads = 0) (r : Bytes) :
    readFinal start index f (code n :: r) =
      readFinal start (index + 1) { f with values := f.values ++ [n], last := code n } r := by
  rw [readFinal, if_neg (code_ne_pad small), if_neg (by omega), value?_code small]

theorem readFinal_pad {start index : Nat} {f : Final} (behind : 2 ≤ index) (r : Bytes) :
    readFinal start index f (pad :: r) =
      readFinal start (index + 1)
        { f with pads := f.pads + 1, firstPad := if f.pads = 0 then index else f.firstPad } r := by
  rw [readFinal, if_pos rfl, if_neg (by omega)]

theorem readFinal_nil (start index : Nat) (f : Final) : readFinal start index f [] = .ok f := by
  rw [readFinal]

/-! ### The last group -/

theorem decodeGroups_four (start : Nat) {w x y z : Nat} (hw : w < 64) (hx : x < 64) (hy : y < 64) (hz : z < 64) :
    decodeGroups start [code w, code x, code y, code z] =
      .ok [UInt8.ofNat ((w * 0x40000 + x * 0x1000 + y * 0x40 + z) / 0x10000),
        UInt8.ofNat ((w * 0x40000 + x * 0x1000 + y * 0x40 + z) / 0x100 % 0x100),
        UInt8.ofNat ((w * 0x40000 + x * 0x1000 + y * 0x40 + z) % 0x100)] := by
  simp only [decodeGroups]
  rw [readFinal_code hw rfl, readFinal_code hx rfl, readFinal_code hy rfl, readFinal_code hz rfl, readFinal_nil]
  rfl

theorem decodeGroups_three (start : Nat) {x y z : Nat} (hx : x < 64) (hy : y < 64) (hz : z < 64)
    (spare : z % 0x4 = 0) :
    decodeGroups start [code x, code y, code z, pad] =
      .ok [UInt8.ofNat ((x * 0x1000 + y * 0x40 + z) / 0x400),
        UInt8.ofNat ((x * 0x1000 + y * 0x40 + z) / 0x4 % 0x100)] := by
  simp only [decodeGroups]
  rw [readFinal_code hx rfl, readFinal_code hy rfl, readFinal_code hz rfl, readFinal_pad (by omega), readFinal_nil]
  change finish start ⟨[x, y, z], _, 1, _⟩ = _
  simp only [finish, spare, ne_eq, not_true_eq_false, ↓reduceIte]

theorem decodeGroups_two (start : Nat) {y z : Nat} (hy : y < 64) (hz : z < 64) (spare : z % 0x10 = 0) :
    decodeGroups start [code y, code z, pad, pad] = .ok [UInt8.ofNat ((y * 0x40 + z) / 0x10)] := by
  simp only [decodeGroups]
  rw [readFinal_code hy rfl, readFinal_code hz rfl, readFinal_pad (by omega), readFinal_pad (by omega), readFinal_nil]
  change finish start ⟨[y, z], _, 2, _⟩ = _
  simp only [finish, spare, ne_eq, not_true_eq_false, ↓reduceIte]

/-! ### All groups -/

theorem ofNat_toNat_eq {n : Nat} {b : UInt8} (same : n = b.toNat) : UInt8.ofNat n = b := by
  rw [same, UInt8.ofNat_toNat]

theorem decodeGroups_encode (start : Nat) (bs : Bytes) :
    decodeGroups start ((encodeChars bs).map fun c => Utf8.byte c.toNat) = .ok bs := by
  fun_induction encodeChars bs generalizing start with
  | case1 a b c r n ih =>
    have ha := a.toNat_lt
    have hb := b.toNat_lt
    have hc := c.toNat_lt
    have whole : n / 0x40000 * 0x40000 + n / 0x1000 % 0x40 * 0x1000 + n / 0x40 % 0x40 * 0x40 + n % 0x40 = n := by
      omega
    have first : UInt8.ofNat (n / 0x10000) = a := ofNat_toNat_eq (by omega)
    have second : UInt8.ofNat (n / 0x100 % 0x100) = b := ofNat_toNat_eq (by omega)
    have third : UInt8.ofNat (n % 0x100) = c := ofNat_toNat_eq (by omega)
    simp only [List.map_cons]
    -- The last group is read apart from the others, with or without padding.
    cases r with
    | nil =>
      refine (decodeGroups_four start (by omega) (by omega) (by omega) (by omega)).trans ?_
      rw [whole, first, second, third]
    | cons d r =>
      obtain ⟨e, es, more⟩ := encodeChars_cons d r
      have rest := ih (start + 4)
      rw [more, List.map_cons] at rest ⊢
      refine (decodeGroups_code (by omega) (by omega) (by omega) (by omega) _ _).trans ?_
      rw [rest, whole, first, second, third]
      rfl
  | case2 a b n =>
    have ha := a.toNat_lt
    have hb := b.toNat_lt
    have whole : n / 0x1000 * 0x1000 + n / 0x40 % 0x40 * 0x40 + n % 0x40 = n := by omega
    refine (decodeGroups_three start (by omega) (by omega) (by omega) (by omega)).trans ?_
    rw [whole, ofNat_toNat_eq (b := a) (by omega), ofNat_toNat_eq (b := b) (by omega)]
  | case3 a n =>
    have ha := a.toNat_lt
    have whole : n / 0x40 * 0x40 + n % 0x40 = n := by omega
    refine (decodeGroups_two start (by omega) (by omega) (by omega)).trans ?_
    rw [whole, ofNat_toNat_eq (b := a) (by omega)]
  | case4 => rfl

theorem decode_encode (bs : Bytes) : decode (encode bs) = .ok bs := by
  have groups := decodeGroups_encode 0 bs
  have whole : (utf8 (encode bs)).length % 4 ≠ 1 := by
    rw [utf8_encode, List.length_map, length_encodeChars]
    decide
  rw [← utf8_encode] at groups
  simp only [decode]
  split
  · rw [if_neg fun stray => whole stray.1]
    exact groups
  · next empty =>
    rw [List.getLast?_eq_none_iff.mp empty] at groups
    exact groups

end Entitlement.Base64
