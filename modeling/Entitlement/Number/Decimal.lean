/-!
Integers in decimal notation, within the range of a machine word. Reading goes from left to right
and stops at the first character that is no digit, or that takes the number out of its range.
-/

namespace Entitlement.Decimal

inductive ReadError
  | empty
  | invalidDigit
  | tooLarge
  | tooSmall
  deriving DecidableEq, Repr

def ReadError.message : ReadError → String
  | empty => "cannot parse integer from empty string"
  | invalidDigit => "invalid digit found in string"
  | tooLarge => "number too large to fit in target type"
  | tooSmall => "number too small to fit in target type"

def isDigit (c : Char) : Bool := '0' ≤ c && c ≤ '9'

def digitValue (c : Char) : Nat := c.toNat - 0x30

/-- The number that a list of digits spells. -/
def ofDigits (ds : List Char) : Nat := ds.foldl (fun n d => 10 * n + digitValue d) 0

/-- Digits behind `acc`, as long as the number stays below `bound`. -/
def readBelow (bound acc : Nat) (overflow : ReadError) : List Char → Except ReadError Nat
  | [] => .ok acc
  | c :: r =>
    if !isDigit c then .error .invalidDigit
    else
      let n := 10 * acc + digitValue c
      if n < bound then readBelow bound n overflow r else .error overflow

/-- A sign may stand in front, but not alone. -/
def readInt64 (s : String) : Except ReadError Int64 :=
  match s.toList with
  | [] => .error .empty
  | ['+'] | ['-'] => .error .invalidDigit
  | '-' :: r => (readBelow (Nat.pow 2 63 + 1) 0 .tooSmall r).map fun n => Int64.ofInt (-n)
  | '+' :: r => (readBelow (Nat.pow 2 63) 0 .tooLarge r).map fun n => Int64.ofInt n
  | r => (readBelow (Nat.pow 2 63) 0 .tooLarge r).map fun n => Int64.ofInt n

def readUInt64 (s : String) : Except ReadError UInt64 :=
  match s.toList with
  | [] => .error .empty
  | ['+'] | ['-'] => .error .invalidDigit
  | '+' :: r => (readBelow UInt64.size 0 .tooLarge r).map UInt64.ofNat
  | r => (readBelow UInt64.size 0 .tooLarge r).map UInt64.ofNat

def digitsOf (n : Nat) : List Char := Nat.toDigits 10 n

def ofInt (i : Int) : String :=
  String.ofList (if i < 0 then '-' :: digitsOf i.natAbs else digitsOf i.natAbs)

def ofInt64 (i : Int64) : String := ofInt i.toInt

def ofUInt64 (n : UInt64) : String := String.ofList (digitsOf n.toNat)

end Entitlement.Decimal
