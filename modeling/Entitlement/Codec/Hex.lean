import Entitlement.Text.Quoted
import Entitlement.Text.Utf8

/-!
Bytes as hexadecimal digits, two a byte. Digits of either case are read, small ones are written.
-/

namespace Entitlement.Hex

inductive DecodeError
  | oddLength
  /-- The byte that is no digit, and where it stands. -/
  | invalidDigit (byte : UInt8) (position : Nat)
  deriving DecidableEq, Repr

/-- A byte is shown as the character of the same number. -/
def DecodeError.message : DecodeError → String
  | oddLength => "Odd number of digits"
  | invalidDigit byte position =>
    "Invalid character " ++ Text.quotedChar (Char.ofNat byte.toNat) ++ " at position " ++
      toString position

def digit (n : Nat) : Char := if n < 10 then Char.ofNat (0x30 + n) else Char.ofNat (0x57 + n)

def encode (bs : Bytes) : String :=
  String.ofList (bs.flatMap fun b => [digit (b.toNat / 16), digit (b.toNat % 16)])

/-- The value of a digit, given as its ASCII code. -/
def value? (b : UInt8) : Option Nat :=
  let n := b.toNat
  if 0x30 ≤ n ∧ n ≤ 0x39 then some (n - 0x30)
  else if 0x41 ≤ n ∧ n ≤ 0x46 then some (n - 0x37)
  else if 0x61 ≤ n ∧ n ≤ 0x66 then some (n - 0x57)
  else none

/-- Reads pairs; `position` is that of the first digit. -/
def decodePairs (position : Nat) : Bytes → Except DecodeError Bytes
  | high :: low :: r =>
    match value? high, value? low with
    | none, _ => .error (.invalidDigit high position)
    | some _, none => .error (.invalidDigit low (position + 1))
    | some h, some l => (decodePairs (position + 2) r).map (UInt8.ofNat (16 * h + l) :: ·)
  | [_] => .error .oddLength
  | [] => .ok []

/-- Whether the digits come in pairs is looked at first. -/
def decode (text : String) : Except DecodeError Bytes :=
  let digits := utf8 text
  if digits.length % 2 = 1 then .error .oddLength else decodePairs 0 digits

end Entitlement.Hex
