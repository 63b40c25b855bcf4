import Entitlement.Config.Setting
import Entitlement.Toml.Text

/-!
The scalars of TOML that are no strings: switches, numbers in four bases, floats, and moments. A
moment becomes its text.
-/

namespace Entitlement.Toml

/-! ### Numbers -/

/-- Digits, between which single underscores may stand, without the underscores. -/
def digits? (isDigit : Char → Bool) : List Char → Option (List Char)
  | [] => none
  | [c] => if isDigit c then some [c] else none
  | c :: '_' :: r => if isDigit c then (digits? isDigit r).map (c :: ·) else none
  | c :: d :: r => if isDigit c then (digits? isDigit (d :: r)).map (c :: ·) else none

def decimalDigits? (cs : List Char) : Option (List Char) := digits? Decimal.isDigit cs

/-- Digits without a needless zero in front. -/
def wholeDigits? (cs : List Char) : Option (List Char) :=
  (decimalDigits? cs).filter fun ds => ds.head? ≠ some '0' || ds.length = 1

def int64? (i : Int) : Option Setting :=
  if -0x8000000000000000 ≤ i ∧ i < 0x8000000000000000 then some (.int (Int64.ofInt i)) else none

def inBase? (base : Nat) (cs : List Char) : Option Setting :=
  (digits? (fun c => (Digit.value? c).any (· < base)) cs).bind fun ds =>
    int64? (ds.foldl (fun n c => base * n + (Digit.value? c).getD 0) 0 : Nat)

def splitSign : List Char → Bool × List Char
  | '-' :: r => (true, r)
  | '+' :: r => (false, r)
  | r => (false, r)

/-- The digits behind an exponent mark. -/
def exponent? (cs : List Char) : Option Int :=
  let (negative, ds) := splitSign cs
  (decimalDigits? ds).map fun ds => if negative then -(Decimal.ofDigits ds : Int) else Decimal.ofDigits ds

/-- A point with digits on both sides, or an exponent, or both. Only a positive one may not be too
large. -/
def float? (negative : Bool) (cs : List Char) : Option Setting :=
  let isMark (c : Char) : Bool := c = 'e' || c = 'E'
  let significand := cs.takeWhile (!isMark ·)
  let exponent := match cs.dropWhile (!isMark ·) with
    | [] => some 0
    | _ :: r => exponent? r
  let fraction := match significand.dropWhile (· ≠ '.') with
    | [] => some []
    | _ :: r => decimalDigits? r
  match wholeDigits? (significand.takeWhile (· ≠ '.')), fraction, exponent with
  | some whole, some fraction, some exponent =>
    let x := Binary64.ofDecimal (Decimal.ofDigits (whole ++ fraction)) (exponent - fraction.length)
    if x.isInf ∧ !negative then none else some (.float (if negative then -x else x))
  | _, _, _ => none

def number? (cs : List Char) : Option Setting :=
  match cs with
  | '0' :: 'x' :: r => inBase? 16 r
  | '0' :: 'o' :: r => inBase? 8 r
  | '0' :: 'b' :: r => inBase? 2 r
  | cs =>
    let (negative, magnitude) := splitSign cs
    let signed (x : Float) : Setting := .float (if negative then -x else x)
    if magnitude = ['i', 'n', 'f'] then some (signed (1 / 0))
    else if magnitude = ['n', 'a', 'n'] then some (signed (0 / 0))
    else match wholeDigits? magnitude with
      | some ds => int64? (if negative then -(Decimal.ofDigits ds : Int) else Decimal.ofDigits ds)
      | none => float? negative magnitude

/-! ### Moments -/

/-- The number that the next `n` digits spell, if it lies between the bounds. -/
def fixed (n low high : Nat) (cs : List Char) : Read Nat :=
  let ds := cs.take n
  let value := Decimal.ofDigits ds
  if ds.length = n ∧ ds.all Decimal.isDigit ∧ low ≤ value ∧ value ≤ high then some (value, cs.drop n)
  else none

def expect (c : Char) : List Char → Option (List Char)
  | d :: r => if d = c then some r else none
  | [] => none

def daysIn (year month : Nat) : Nat :=
  if month = 2 then if year % 4 = 0 ∧ (year % 100 ≠ 0 ∨ year % 400 = 0) then 29 else 28
  else if month = 4 ∨ month = 6 ∨ month = 9 ∨ month = 11 then 30
  else 31

def twoDigits (n : Nat) : List Char := if n < 10 then '0' :: Decimal.digitsOf n else Decimal.digitsOf n

def date (cs : List Char) : Option (List Char × List Char) := do
  let (year, r) ← fixed 4 0 9999 cs
  let (month, r) ← fixed 2 1 12 (← expect '-' r)
  let (day, r) ← fixed 2 1 (daysIn year month) (← expect '-' r)
  let yearDigits := Decimal.digitsOf year
  return (List.replicate (4 - yearDigits.length) '0' ++ yearDigits ++ '-' :: twoDigits month ++ '-' :: twoDigits day, r)

/-- Nine places of a second are kept, and zeros at their end are not written. -/
def fraction (cs : List Char) : Read (List Char) :=
  match cs with
  | '.' :: r =>
    let ds := r.takeWhile Decimal.isDigit
    let kept := ((ds.take 9).reverse.dropWhile (· = '0')).reverse
    if ds.isEmpty then none
    else some (if kept.isEmpty then [] else '.' :: kept, r.dropWhile Decimal.isDigit)
  | r => some ([], r)

def time (cs : List Char) : Option (List Char × List Char) := do
  let (hour, r) ← fixed 2 0 23 cs
  let (minute, r) ← fixed 2 0 59 (← expect ':' r)
  let (second, r) ← fixed 2 0 60 (← expect ':' r)
  let (part, r) ← fraction r
  return (twoDigits hour ++ ':' :: twoDigits minute ++ ':' :: twoDigits second ++ part, r)

/-- An offset of nothing has a plus sign. -/
def offset (cs : List Char) : Option (List Char × List Char) :=
  match cs with
  | [] => some ([], [])
  | c :: r =>
    if c = 'Z' ∨ c = 'z' then some (['Z'], r)
    else if c = '+' ∨ c = '-' then do
      let (hour, r) ← fixed 2 0 23 r
      let (minute, r) ← fixed 2 0 59 (← expect ':' r)
      let sign := if hour = 0 ∧ minute = 0 then '+' else c
      return (sign :: twoDigits hour ++ ':' :: twoDigits minute, r)
    else none

/-- A date, a time of day, or a date with a time of day and perhaps an offset. -/
def moment? (cs : List Char) : Option Setting :=
  let result : Option (List Char × List Char) := match date cs with
    | none => time cs
    | some (day, []) => some (day, [])
    | some (day, c :: r) =>
      if c = 'T' ∨ c = 't' ∨ c = ' ' then do
        let (time, r) ← time r
        let (offset, r) ← offset r
        return (day ++ 'T' :: time ++ offset, r)
      else none
  result.bind fun (text, rest) => if rest.isEmpty then some (.text (String.ofList text)) else none

/-! ### Scalars -/

def isScalarChar (c : Char) : Bool := c.isAlphanum || c = '+' || c = '-' || c = '_' || c = '.' || c = ':'

/-- The characters of a scalar. A date and a time of day may be held together by a blank. -/
def scalarText (cs : List Char) : List Char × List Char :=
  let first := cs.takeWhile isScalarChar
  let rest := cs.dropWhile isScalarChar
  match date first, rest with
  | some (_, []), ' ' :: d :: r =>
    if Decimal.isDigit d then
      (first ++ ' ' :: (d :: r).takeWhile isScalarChar, (d :: r).dropWhile isScalarChar)
    else (first, rest)
  | _, _ => (first, rest)

def scalar (cs : List Char) : Read Setting :=
  let (text, rest) := scalarText cs
  let value :=
    if text = "true".toList then some (.bool true)
    else if text = "false".toList then some (.bool false)
    else match number? text with
      | some v => some v
      | none => moment? text
  value.map fun v => (v, rest)

end Entitlement.Toml
