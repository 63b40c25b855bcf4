import Entitlement.Json.Text

/-!
JSON numbers. Their notation is read first, then given a value: a whole number that a word holds is
kept exactly, any other becomes a float. The float is the significant digits, as many as a word
holds, scaled by one power of ten.
-/

namespace Entitlement.Json

def isDigit (b : UInt8) : Bool := 0x30 ≤ b && b ≤ 0x39

def digitValue (b : UInt8) : Nat := b.toNat - 0x30

/-- A number as written. -/
structure Notation where
  negative : Bool
  whole : Bytes
  /-- The digits behind the point, if there is one. -/
  fraction : Option Bytes
  /-- Sign and digits behind the exponent mark, if there is one. -/
  exponent : Option (Bool × Bytes)
  deriving DecidableEq, Repr

/-- At least one digit. -/
def digits (bs : Bytes) : Read Bytes :=
  match bs.takeWhile isDigit, bs.dropWhile isDigit with
  | [], [] => .error .truncated
  | [], _ :: _ => .error .malformed
  | ds, r => .ok (ds, r)

/-- Digits without a needless zero in front. -/
def wholePart (bs : Bytes) : Read Bytes :=
  match digits bs with
  | .error f => .error f
  | .ok (ds, r) => if ds.head? = some (code '0') ∧ 1 < ds.length then .error .malformed else .ok (ds, r)

def fractionPart (bs : Bytes) : Read (Option Bytes) :=
  match bs with
  | b :: r => if b = code '.' then (digits r).map fun (ds, r) => (some ds, r) else .ok (none, bs)
  | [] => .ok (none, [])

def exponentSign (bs : Bytes) : Bool × Bytes :=
  match bs with
  | b :: r => if b = code '-' then (true, r) else if b = code '+' then (false, r) else (false, bs)
  | [] => (false, [])

def exponentPart (bs : Bytes) : Read (Option (Bool × Bytes)) :=
  match bs with
  | b :: r =>
    if b = code 'e' ∨ b = code 'E' then
      let (negative, r) := exponentSign r
      (digits r).map fun (ds, r) => (some (negative, ds), r)
    else .ok (none, bs)
  | [] => .ok (none, [])

/-- The notation of a number whose sign, if any, has been read. -/
def notationOf (negative : Bool) (bs : Bytes) : Read Notation :=
  match wholePart bs with
  | .error f => .error f
  | .ok (whole, r) =>
    match fractionPart r with
    | .error f => .error f
    | .ok (fraction, r) =>
      (exponentPart r).map fun (exponent, r) => (⟨negative, whole, fraction, exponent⟩, r)

/-- A number that is passed over never counts as ending early. -/
def skipNumber (negative : Bool) (bs : Bytes) : Except Fault Bytes :=
  match notationOf negative bs with
  | .ok (_, r) => .ok r
  | .error _ => .error .malformed

/-! ### Values -/

inductive Number
  | unsigned (n : UInt64)
  | negative (i : Int64)
  | float (x : Float)

def maxWord : Nat := UInt64.size - 1

/-- A significand and the power of ten that goes with it. -/
structure Scaled where
  significand : Nat
  exponent : Int

/-- Digits before the point: once the word is full, they only count. -/
def scaleWhole (s : Scaled) : Bytes → Scaled
  | [] => s
  | d :: ds =>
    if 10 * s.significand + digitValue d ≤ maxWord then
      scaleWhole { s with significand := 10 * s.significand + digitValue d } ds
    else { s with exponent := s.exponent + (d :: ds).length }

/-- Digits behind the point: once the word is full, they are dropped. -/
def scaleFraction (s : Scaled) : Bytes → Scaled
  | [] => s
  | d :: ds =>
    if 10 * s.significand + digitValue d ≤ maxWord then
      scaleFraction ⟨10 * s.significand + digitValue d, s.exponent - 1⟩ ds
    else s

def powerOfTen (n : Nat) : Float := Float.ofScientific 1 false n

/-- Divides or multiplies by powers of ten up to `1e308`, until nothing is left to scale. Numbers
past the largest float are refused. -/
def scale : Nat → Float → Int → Except Fault Float
  | steps, f, e =>
    if e.natAbs ≤ 308 then
      if 0 ≤ e then
        let f := f * powerOfTen e.natAbs
        if f.isInf then .error .malformed else .ok f
      else .ok (f / powerOfTen e.natAbs)
    else if f == 0 then .ok f
    else if 0 ≤ e then .error .malformed
    else match steps with
      | 0 => .ok 0
      | steps + 1 => scale steps (f / powerOfTen 308) (e + 308)

/-- Exponents are counted in 31 bits. -/
def maxExponent : Nat := Nat.pow 2 31 - 1

/-- The float behind a notation; three steps of scaling leave nothing of any word. -/
def Notation.toFloat (n : Notation) : Except Fault Float :=
  let s := scaleWhole ⟨0, 0⟩ n.whole
  let s := scaleFraction s (n.fraction.getD [])
  let signed (f : Float) := if n.negative then -f else f
  match n.exponent with
  | none => (scale 3 (Float.ofNat s.significand) s.exponent).map signed
  | some (down, ds) =>
    let e := ds.foldl (fun e d => 10 * e + digitValue d) 0
    if maxExponent < e then
      if s.significand ≠ 0 ∧ !down then .error .malformed else .ok (signed 0)
    else
      (scale 3 (Float.ofNat s.significand) (if down then s.exponent - e else s.exponent + e)).map signed

/-- The whole number behind a notation, if a word holds it. A negative zero is none. -/
def Notation.toWhole? (n : Notation) : Option Number :=
  let m := n.whole.foldl (fun m d => 10 * m + digitValue d) 0
  if n.fraction.isSome || n.exponent.isSome then none
  else if !n.negative then if m ≤ maxWord then some (.unsigned (UInt64.ofNat m)) else none
  else if 0 < m ∧ m ≤ Nat.pow 2 63 then some (.negative (Int64.ofInt (-m))) else none

def Notation.value (n : Notation) : Except Fault Number :=
  match n.toWhole? with
  | some v => .ok v
  | none => n.toFloat.map .float

def number (negative : Bool) (bs : Bytes) : Read Number :=
  match notationOf negative bs with
  | .error f => .error f
  | .ok (n, r) => n.value.map fun v => (v, r)

end Entitlement.Json
