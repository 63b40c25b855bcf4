/-!
Text as bytes. Writing is by the four shapes of UTF-8; reading takes one character at a time and
refuses what no shape allows: overlong forms, surrogates, and anything past the last code point.
-/

namespace Entitlement

abbrev Bytes := List UInt8

namespace Utf8

def byte (n : Nat) : UInt8 := UInt8.ofNat n

def encodeChar (c : Char) : Bytes :=
  let n := c.toNat
  if n < 0x80 then [byte n]
  else if n < 0x800 then [byte (0xC0 + n / 0x40), byte (0x80 + n % 0x40)]
  else if n < 0x10000 then
    [byte (0xE0 + n / 0x1000), byte (0x80 + n / 0x40 % 0x40), byte (0x80 + n % 0x40)]
  else
    [byte (0xF0 + n / 0x40000), byte (0x80 + n / 0x1000 % 0x40), byte (0x80 + n / 0x40 % 0x40),
      byte (0x80 + n % 0x40)]

def encode (cs : List Char) : Bytes := cs.flatMap encodeChar

/-- The first byte of a character of several bytes: how many follow, what it contributes, and the
bounds of the second byte. -/
def lead? (b : Nat) : Option (Nat × Nat × Nat × Nat) :=
  if 0xC2 ≤ b ∧ b ≤ 0xDF then some (1, b - 0xC0, 0x80, 0xBF)
  else if b = 0xE0 then some (2, 0, 0xA0, 0xBF)
  else if b = 0xED then some (2, 0xD, 0x80, 0x9F)
  else if 0xE1 ≤ b ∧ b ≤ 0xEF then some (2, b - 0xE0, 0x80, 0xBF)
  else if b = 0xF0 then some (3, 0, 0x90, 0xBF)
  else if 0xF1 ≤ b ∧ b ≤ 0xF3 then some (3, b - 0xF0, 0x80, 0xBF)
  else if b = 0xF4 then some (3, 4, 0x80, 0x8F)
  else none

/-- Reads `more` further bytes, the next one between `low` and `high`. Without a character it stops
before the first byte that does not fit. -/
def tail (more acc low high : Nat) (bs : Bytes) : Option Char × Bytes :=
  match more, bs with
  | 0, bs => (some (Char.ofNat acc), bs)
  | more + 1, b :: bs =>
    if low ≤ b.toNat ∧ b.toNat ≤ high then tail more (acc * 0x40 + (b.toNat - 0x80)) 0x80 0xBF bs
    else (none, b :: bs)
  | _ + 1, [] => (none, [])

/-- One character from the front, or the longest start of one that is not one. -/
def next (b : UInt8) (bs : Bytes) : Option Char × Bytes :=
  if b.toNat < 0x80 then (some (Char.ofNat b.toNat), bs)
  else match lead? b.toNat with
    | some (more, acc, low, high) => tail more acc low high bs
    | none => (none, bs)

theorem length_tail_le (more acc low high : Nat) (bs : Bytes) :
    (tail more acc low high bs).2.length ≤ bs.length := by
  induction bs generalizing more acc low high with
  | nil => cases more <;> simp [tail]
  | cons b bs ih =>
    cases more with
    | zero => simp [tail]
    | succ more =>
      simp only [tail]
      split
      · exact Nat.le_succ_of_le (ih ..)
      · simp

theorem length_next_le (b : UInt8) (bs : Bytes) : (next b bs).2.length ≤ bs.length := by
  unfold next
  split
  · simp
  · split
    · exact length_tail_le ..
    · simp

/-- The text that the bytes spell. -/
def decode? : Bytes → Option (List Char)
  | [] => some []
  | b :: bs => (next b bs).1.bind fun c => (decode? (next b bs).2).map (c :: ·)
termination_by bs => bs.length
decreasing_by exact Nat.lt_succ_of_le (length_next_le b bs)

/-- The text, with a replacement character for every longest stretch that is not one. -/
def decodeLossy : Bytes → List Char
  | [] => []
  | b :: bs => (next b bs).1.getD '\uFFFD' :: decodeLossy (next b bs).2
termination_by bs => bs.length
decreasing_by exact Nat.lt_succ_of_le (length_next_le b bs)

end Utf8

/-- The bytes of a text. -/
def utf8 (s : String) : Bytes := Utf8.encode s.toList

end Entitlement
