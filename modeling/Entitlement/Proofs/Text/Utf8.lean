import Entitlement.Text.Utf8

/-!
Text written as bytes reads back as that text, so no two texts have the same bytes (`encode_injective`). Text in
ASCII has one byte for each character.
-/

namespace Entitlement.Utf8

theorem toNat_byte {n : Nat} (small : n < 0x100) : (byte n).toNat = n := by
  simp only [byte, UInt8.toNat_ofNat']
  omega

/-- A byte behind the first one adds six bits. -/
theorem tail_byte {more acc low high x : Nat} (bs : Bytes) (above : low ≤ 0x80 + x) (below : 0x80 + x ≤ high)
    (small : x < 0x40) :
    tail (more + 1) acc low high (byte (0x80 + x) :: bs) = tail more (acc * 0x40 + x) 0x80 0xBF bs := by
  have value : (byte (0x80 + x)).toNat = 0x80 + x := toNat_byte (by omega)
  rw [tail, value, if_pos ⟨above, below⟩, Nat.add_sub_cancel_left]

theorem tail_last {acc : Nat} (low high : Nat) (bs : Bytes) {c : Char} (same : acc = c.toNat) :
    tail 0 acc low high bs = (some c, bs) := by
  rw [tail, same, Char.ofNat_toNat]

theorem next_lead {b more acc low high : Nat} (bs : Bytes) (above : 0x80 ≤ b) (below : b < 0x100)
    (leads : lead? b = some (more, acc, low, high)) : next (byte b) bs = tail more acc low high bs := by
  rw [next, toNat_byte below, if_neg (Nat.not_lt.mpr above), leads]

/-! ### First bytes -/

theorem lead?_two {x : Nat} (above : 2 ≤ x) (below : x < 0x20) : lead? (0xC0 + x) = some (1, x, 0x80, 0xBF) := by
  rw [lead?, if_pos (by omega), Nat.add_sub_cancel_left]

/-- The second byte keeps out what would fit into fewer bytes, and the surrogates. -/
theorem lead?_three {x y : Nat} (below : x < 0x10) (long : 0x20 ≤ x * 0x40 + y)
    (valid : x * 0x40 + y < 0x360 ∨ 0x37F < x * 0x40 + y) (small : y < 0x40) :
    ∃ low high, lead? (0xE0 + x) = some (2, x, low, high) ∧ low ≤ 0x80 + y ∧ 0x80 + y ≤ high := by
  unfold lead?
  rw [if_neg (by omega)]
  by_cases first : x = 0
  · subst first
    exact ⟨_, _, if_pos rfl, by omega, by omega⟩
  rw [if_neg (by omega)]
  by_cases surrogates : x = 0xD
  · subst surrogates
    exact ⟨_, _, if_pos rfl, by omega, by omega⟩
  rw [if_neg (by omega), if_pos (by omega), Nat.add_sub_cancel_left]
  exact ⟨_, _, rfl, by omega, by omega⟩

/-- Here it keeps out what is no code point. -/
theorem lead?_four {x y : Nat} (below : x * 0x40 + y < 0x110) (long : 0x10 ≤ x * 0x40 + y) (small : y < 0x40) :
    ∃ low high, lead? (0xF0 + x) = some (3, x, low, high) ∧ low ≤ 0x80 + y ∧ 0x80 + y ≤ high := by
  unfold lead?
  rw [if_neg (by omega), if_neg (by omega), if_neg (by omega), if_neg (by omega)]
  by_cases first : x = 0
  · subst first
    exact ⟨_, _, if_pos rfl, by omega, by omega⟩
  rw [if_neg (by omega)]
  by_cases last : x = 4
  · subst last
    exact ⟨_, _, by rw [if_neg (by omega)]; exact if_pos rfl, by omega, by omega⟩
  rw [if_pos (by omega), Nat.add_sub_cancel_left]
  exact ⟨_, _, rfl, by omega, by omega⟩

/-! ### Characters and texts -/

theorem toNat_valid (c : Char) : c.toNat < 0xD800 ∨ (0xDFFF < c.toNat ∧ c.toNat < 0x110000) := c.valid

theorem next_encodeChar (c : Char) (rest : Bytes) :
    ∃ b bs, encodeChar c = b :: bs ∧ next b (bs ++ rest) = (some c, rest) := by
  have valid := toNat_valid c
  -- A character has one to four bytes.
  unfold encodeChar
  by_cases one : c.toNat < 0x80
  · simp only [if_pos one]
    refine ⟨_, _, rfl, ?_⟩
    rw [next, toNat_byte (by omega), if_pos one, Char.ofNat_toNat]
    rfl
  by_cases two : c.toNat < 0x800
  · simp only [if_neg one, if_pos two]
    refine ⟨_, _, rfl, ?_⟩
    rw [next_lead _ (by omega) (by omega) (lead?_two (by omega) (by omega)), List.cons_append,
      tail_byte _ (by omega) (by omega) (by omega)]
    exact tail_last _ _ _ (by omega)
  by_cases three : c.toNat < 0x10000
  · simp only [if_neg one, if_neg two, if_pos three]
    refine ⟨_, _, rfl, ?_⟩
    obtain ⟨low, high, leads, above, below⟩ :=
      lead?_three (x := c.toNat / 0x1000) (y := c.toNat / 0x40 % 0x40) (by omega) (by omega) (by omega) (by omega)
    rw [next_lead _ (by omega) (by omega) leads, List.cons_append, tail_byte _ above below (by omega),
      List.cons_append, tail_byte _ (by omega) (by omega) (by omega)]
    exact tail_last _ _ _ (by omega)
  · simp only [if_neg one, if_neg two, if_neg three]
    refine ⟨_, _, rfl, ?_⟩
    obtain ⟨low, high, leads, above, below⟩ :=
      lead?_four (x := c.toNat / 0x40000) (y := c.toNat / 0x1000 % 0x40) (by omega) (by omega) (by omega)
    rw [next_lead _ (by omega) (by omega) leads, List.cons_append, tail_byte _ above below (by omega),
      List.cons_append, tail_byte _ (by omega) (by omega) (by omega), List.cons_append,
      tail_byte _ (by omega) (by omega) (by omega)]
    exact tail_last _ _ _ (by omega)

theorem encode_cons (c : Char) (cs : List Char) :
    ∃ b bs, encode (c :: cs) = b :: bs ∧ next b bs = (some c, encode cs) := by
  obtain ⟨b, bs, bytes, read⟩ := next_encodeChar c (encode cs)
  refine ⟨b, bs ++ encode cs, ?_, read⟩
  rw [encode, List.flatMap_cons, bytes]
  rfl

theorem decode?_encode (cs : List Char) : decode? (encode cs) = some cs := by
  induction cs with
  | nil => rw [encode, List.flatMap_nil, decode?]
  | cons c cs ih =>
    obtain ⟨b, bs, written, read⟩ := encode_cons c cs
    rw [written, decode?, read, ih]
    rfl

theorem decodeLossy_encode (cs : List Char) : decodeLossy (encode cs) = cs := by
  induction cs with
  | nil => rw [encode, List.flatMap_nil, decodeLossy]
  | cons c cs ih =>
    obtain ⟨b, bs, written, read⟩ := encode_cons c cs
    rw [written, decodeLossy, read, ih]
    rfl

theorem encode_injective : Function.Injective encode := by
  intro cs ds same
  exact Option.some.inj ((decode?_encode cs).symm.trans ((congrArg decode? same).trans (decode?_encode ds)))

/-- A character outside ASCII has no byte in ASCII. -/
theorem high_of_mem_encodeChar {c : Char} (wide : 0x80 ≤ c.toNat) {b : UInt8} (member : b ∈ encodeChar c) :
    0x80 ≤ b.toNat := by
  have valid := toNat_valid c
  have high {n : Nat} (above : 0x80 ≤ n) (below : n < 0x100) : 0x80 ≤ (byte n).toNat := by
    rw [toNat_byte below]
    exact above
  unfold encodeChar at member
  simp only [if_neg (Nat.not_lt.mpr wide)] at member
  split at member
  · simp only [List.mem_cons, List.not_mem_nil, or_false] at member
    rcases member with rfl | rfl <;> exact high (by omega) (by omega)
  split at member
  · simp only [List.mem_cons, List.not_mem_nil, or_false] at member
    rcases member with rfl | rfl | rfl <;> exact high (by omega) (by omega)
  · simp only [List.mem_cons, List.not_mem_nil, or_false] at member
    rcases member with rfl | rfl | rfl | rfl <;> exact high (by omega) (by omega)

/-- A text in ASCII is its codes. -/
theorem encode_ascii {cs : List Char} (ascii : ∀ c ∈ cs, c.toNat < 0x80) :
    encode cs = cs.map fun c => byte c.toNat := by
  induction cs with
  | nil => rfl
  | cons c cs ih =>
    have first : encodeChar c = [byte c.toNat] := if_pos (ascii c List.mem_cons_self)
    rw [encode, List.flatMap_cons, first]
    exact congrArg (byte c.toNat :: ·) (ih fun d member => ascii d (List.mem_cons_of_mem c member))

end Entitlement.Utf8

namespace Entitlement

theorem utf8_injective : Function.Injective utf8 := by
  intro s t same
  exact String.toList_injective (Utf8.encode_injective same)

end Entitlement
