import Entitlement.Number.Decimal

/-!
Compact JSON: no blanks, members in the order given, and in strings nothing escaped that need not
be.
-/

namespace Entitlement.Json

def hexDigit (n : Nat) : Char := if n < 10 then Char.ofNat (0x30 + n) else Char.ofNat (0x57 + n)

def escapeChar (c : Char) : List Char :=
  if c = '"' ∨ c = '\\' then ['\\', c]
  else if c = '\x08' then ['\\', 'b']
  else if c = '\t' then ['\\', 't']
  else if c = '\n' then ['\\', 'n']
  else if c = '\x0C' then ['\\', 'f']
  else if c = '\r' then ['\\', 'r']
  else if c.toNat < 0x20 then
    ['\\', 'u', '0', '0', hexDigit (c.toNat / 16), hexDigit (c.toNat % 16)]
  else [c]

/-- A value that a record is written with. -/
inductive Scalar
  | text (s : String)
  | int64 (i : Int64)
  | uint64 (n : UInt64)
  deriving DecidableEq, Repr

def writeText (s : String) : List Char := '"' :: s.toList.flatMap escapeChar ++ ['"']

def Scalar.write : Scalar → List Char
  | text s => writeText s
  | int64 i => (Decimal.ofInt64 i).toList
  | uint64 n => (Decimal.ofUInt64 n).toList

def writeMember (m : String × Scalar) : List Char := writeText m.1 ++ ':' :: m.2.write

def writeMembers : List (String × Scalar) → List Char
  | [] => []
  | [m] => writeMember m
  | m :: m' :: ms => writeMember m ++ ',' :: writeMembers (m' :: ms)

def writeRecord (ms : List (String × Scalar)) : String :=
  String.ofList ('\x7b' :: writeMembers ms ++ ['\x7d'])

end Entitlement.Json
