import Entitlement.Text.Utf8

/-!
Base64 with the standard alphabet. Padding is written and required, and the bits that the last
symbol has to spare must be zero, so every string of bytes has one written form.
-/

namespace Entitlement.Base64

inductive DecodeError
  | invalidSymbol (byte : UInt8) (offset : Nat)
  | invalidLength (length : Nat)
  | invalidLastSymbol (byte : UInt8) (offset : Nat)
  | invalidPadding
  deriving DecidableEq, Repr

def DecodeError.message : DecodeError → String
  | invalidSymbol byte offset =>
    "Invalid symbol " ++ toString byte.toNat ++ ", offset " ++ toString offset ++ "."
  | invalidLength length => "Invalid input length: " ++ toString length
  | invalidLastSymbol byte offset =>
    "Invalid last symbol " ++ toString byte.toNat ++ ", offset " ++ toString offset ++ "."
  | invalidPadding => "Invalid padding"

def symbol (n : Nat) : Char :=
  if n < 26 then Char.ofNat (0x41 + n)
  else if n < 52 then Char.ofNat (0x61 + (n - 26))
  else if n < 62 then Char.ofNat (0x30 + (n - 52))
  else if n = 62 then '+'
  else '/'

/-- Three bytes make four symbols; what is missing of the last three is padded. -/
def encodeChars : Bytes → List Char
  | a :: b :: c :: r =>
    let n := a.toNat * 0x10000 + b.toNat * 0x100 + c.toNat
    symbol (n / 0x40000) :: symbol (n / 0x1000 % 0x40) :: symbol (n / 0x40 % 0x40) ::
      symbol (n % 0x40) :: encodeChars r
  | [a, b] =>
    let n := a.toNat * 0x400 + b.toNat * 0x4
    [symbol (n / 0x1000), symbol (n / 0x40 % 0x40), symbol (n % 0x40), '=']
  | [a] =>
    let n := a.toNat * 0x10
    [symbol (n / 0x40), symbol (n % 0x40), '=', '=']
  | [] => []

def encode (bs : Bytes) : String := String.ofList (encodeChars bs)

def pad : UInt8 := 0x3D

def value? (b : UInt8) : Option Nat :=
  let n := b.toNat
  if 0x41 ≤ n ∧ n ≤ 0x5A then some (n - 0x41)
  else if 0x61 ≤ n ∧ n ≤ 0x7A then some (n - 0x61 + 26)
  else if 0x30 ≤ n ∧ n ≤ 0x39 then some (n - 0x30 + 52)
  else if n = 0x2B then some 62
  else if n = 0x2F then some 63
  else none

/-- What the last group of up to four symbols holds. -/
structure Final where
  values : List Nat := []
  last : UInt8 := 0
  /-- How many pads, and where the first one stands. -/
  pads : Nat := 0
  firstPad : Nat := 0

/-- Reads the last group from offset `start + index` on. Pads stand behind two symbols at least, and
nothing stands behind a pad. -/
def readFinal (start index : Nat) (f : Final) : Bytes → Except DecodeError Final
  | [] => .ok f
  | b :: r =>
    if b = pad then
      if index < 2 then .error (.invalidSymbol b (start + index))
      else readFinal start (index + 1)
        { f with pads := f.pads + 1, firstPad := if f.pads = 0 then index else f.firstPad } r
    else if 0 < f.pads then .error (.invalidSymbol pad (start + f.firstPad))
    else match value? b with
      | none => .error (.invalidSymbol b (start + index))
      | some v => readFinal start (index + 1) { f with values := f.values ++ [v], last := b } r

/-- The bytes of the last group, which is not empty. -/
def finish (start : Nat) (f : Final) : Except DecodeError Bytes :=
  let lastOffset := start + f.values.length - 1
  match f.values with
  | [] | [_] => .error (.invalidLength (start + f.values.length))
  | [a, b] =>
    if f.pads ≠ 2 then .error .invalidPadding
    else if b % 0x10 ≠ 0 then .error (.invalidLastSymbol f.last lastOffset)
    else .ok [UInt8.ofNat ((a * 0x40 + b) / 0x10)]
  | [a, b, c] =>
    let n := a * 0x1000 + b * 0x40 + c
    if f.pads ≠ 1 then .error .invalidPadding
    else if c % 0x4 ≠ 0 then .error (.invalidLastSymbol f.last lastOffset)
    else .ok [UInt8.ofNat (n / 0x400), UInt8.ofNat (n / 0x4 % 0x100)]
  | a :: b :: c :: d :: _ =>
    let n := a * 0x40000 + b * 0x1000 + c * 0x40 + d
    .ok [UInt8.ofNat (n / 0x10000), UInt8.ofNat (n / 0x100 % 0x100), UInt8.ofNat (n % 0x100)]

/-- Groups of four symbols, of which only the last may hold pads. -/
def decodeGroups (start : Nat) : Bytes → Except DecodeError Bytes
  | a :: b :: c :: d :: e :: r =>
    match value? a, value? b, value? c, value? d with
    | some va, some vb, some vc, some vd =>
      let n := va * 0x40000 + vb * 0x1000 + vc * 0x40 + vd
      (decodeGroups (start + 4) (e :: r)).map fun rest =>
        UInt8.ofNat (n / 0x10000) :: UInt8.ofNat (n / 0x100 % 0x100) :: UInt8.ofNat (n % 0x100) ::
          rest
    | none, _, _, _ => .error (.invalidSymbol a start)
    | _, none, _, _ => .error (.invalidSymbol b (start + 1))
    | _, _, none, _ => .error (.invalidSymbol c (start + 2))
    | _, _, _, none => .error (.invalidSymbol d (start + 3))
  | [] => .ok []
  | final => readFinal start 0 {} final >>= finish start

/-- A stray byte behind the last group, such as the end of a line, is named before all else. -/
def decode (text : String) : Except DecodeError Bytes :=
  let symbols := utf8 text
  match symbols.getLast? with
  | some b =>
    if symbols.length % 4 = 1 ∧ b ≠ pad ∧ value? b = none then
      .error (.invalidSymbol b (symbols.length - 1))
    else decodeGroups 0 symbols
  | none => .ok []

end Entitlement.Base64
