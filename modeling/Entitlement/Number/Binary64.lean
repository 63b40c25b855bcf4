import Entitlement.Number.Decimal

/-!
Floating-point numbers of 64 bits: what a bit pattern stands for, the text of a number and the
whole number next to it.
-/

namespace Entitlement.Binary64

/-- What a bit pattern stands for; a finite one for `mantissa * 2 ^ exponent`. -/
inductive Class
  | nan
  | infinite (negative : Bool)
  | finite (negative : Bool) (mantissa : Nat) (exponent : Int)
  deriving DecidableEq, Repr

def classify (x : Float) : Class :=
  let bits := x.toBits.toNat
  let negative := bits / Nat.pow 2 63 = 1
  let exponent : Nat := bits / Nat.pow 2 52 % Nat.pow 2 11
  let fraction : Nat := bits % Nat.pow 2 52
  if exponent = 2047 then if fraction = 0 then .infinite negative else .nan
  else if exponent = 0 then .finite negative fraction (-1074)
  else .finite negative (Nat.pow 2 52 + fraction) ((exponent : Int) - 1075)

/-- The nearest whole number, a half going away from zero, kept within the range of a word. -/
def roundToUInt64 (x : Float) : UInt64 :=
  match classify x with
  | .nan | .infinite true | .finite true _ _ => 0
  | .infinite false => UInt64.ofNat (UInt64.size - 1)
  | .finite false m e =>
    let n := if 0 ≤ e then m * Nat.pow 2 e.toNat else (2 * m + Nat.pow 2 (-e).toNat) / Nat.pow 2 ((-e).toNat + 1)
    UInt64.ofNat (min n (UInt64.size - 1))

/-- The float nearest to `m * 10 ^ e`. Powers that decide the matter alone are not computed. -/
def ofDecimal (m : Nat) (e : Int) : Float :=
  let size := (Decimal.digitsOf m).length
  if m = 0 ∨ size + e < -400 then 0
  else if 400 < size + e then 1 / 0
  else if 0 ≤ e then Float.ofScientific m false e.toNat
  else Float.ofScientific m true (-e).toNat

/-- The digits behind an exponent mark, with a sign or without. -/
def readExponent? (cs : List Char) : Option Int :=
  let (negative, ds) := match cs with
    | '-' :: r => (true, r)
    | '+' :: r => (false, r)
    | r => (false, r)
  if ds.isEmpty || !ds.all Decimal.isDigit then none
  else
    let n := (Decimal.ofDigits ds : Int)
    some (if negative then -n else n)

/-- Digits with at most one point among or around them, then perhaps an exponent. -/
def readUnsigned? (cs : List Char) : Option Float :=
  let whole := cs.takeWhile Decimal.isDigit
  let rest := cs.dropWhile Decimal.isDigit
  let (fraction, rest) := match rest with
    | '.' :: r => (r.takeWhile Decimal.isDigit, r.dropWhile Decimal.isDigit)
    | r => ([], r)
  let value (e : Int) := ofDecimal (Decimal.ofDigits (whole ++ fraction)) (e - fraction.length)
  if whole.isEmpty && fraction.isEmpty then none
  else match rest with
    | [] => some (value 0)
    | c :: r => if c = 'e' ∨ c = 'E' then (readExponent? r).map value else none

/-- A number, an infinity or no number, with a sign or without. -/
def read? (s : String) : Option Float :=
  let (negative, cs) := match s.toList with
    | '-' :: r => (true, r)
    | '+' :: r => (false, r)
    | r => (false, r)
  let word := String.ofList (cs.map Char.toLower)
  let magnitude :=
    if word = "inf" ∨ word = "infinity" then some (1 / 0)
    else if word = "nan" then some (0 / 0)
    else readUnsigned? cs
  magnitude.map fun x => if negative then -x else x

end Entitlement.Binary64
