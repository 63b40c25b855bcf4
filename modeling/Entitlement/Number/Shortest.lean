import Entitlement.Number.Binary64

/-!
The shortest decimal that reads back as a given float. The reals that round to the float form an
interval; on the grid of decimals with one digit, then two, and so on, the two neighbours of the
float are tried until one lies inside. Of two that do, the nearer one is taken, and the larger one if both
are as near.
-/

namespace Entitlement.Shortest

/-- A positive rational. -/
structure Ratio where
  num : Nat
  den : Nat

/-- How many digits stand before the point of `r`; not above zero when `r` is below one, and then
the zeros behind the point are counted down. -/
def magnitude (r : Ratio) : Int :=
  if r.den ≤ r.num then (Decimal.digitsOf (r.num / r.den)).length
  else
    let j := (Decimal.digitsOf (r.den / r.num)).length - 1
    if r.den ≤ r.num * Nat.pow 10 j then 1 - (j : Int) else -(j : Int)

/-- The interval around `4 * m` quarters of a unit: its ends, and whether they belong to it. -/
structure Rounding where
  low : Nat
  high : Nat
  closed : Bool

/-- Below a power of two the neighbour is only half as far away. -/
def rounding (m : Nat) (e : Int) : Rounding :=
  let low := if m = Nat.pow 2 52 ∧ -1074 < e then 4 * m - 1 else 4 * m - 2
  ⟨low, 4 * m + 2, m % 2 = 0⟩

/-- `digits` of the grid unit `10 ^ unit` lie in the interval, whose own unit is `2 ^ (e - 2)`. -/
def inside (i : Rounding) (e : Int) (digits : Nat) (unit : Int) : Bool :=
  let lhs := digits * Nat.pow 10 unit.toNat * Nat.pow 2 (2 - e).toNat
  let scale := Nat.pow 2 (e - 2).toNat * Nat.pow 10 (-unit).toNat
  if i.closed then i.low * scale ≤ lhs && lhs ≤ i.high * scale
  else i.low * scale < lhs && lhs < i.high * scale

/-- Tries grids with `n` digits and more. Seventeen digits always suffice. -/
def search (i : Rounding) (m : Nat) (e : Int) (top : Int) (n : Nat) : Nat → Nat × Int
  | 0 => (0, 0)
  | fuel + 1 =>
    let unit := top - n
    let num := m * Nat.pow 2 e.toNat * Nat.pow 10 (-unit).toNat
    let den := Nat.pow 2 (-e).toNat * Nat.pow 10 unit.toNat
    let below := num / den
    let belowIn := 0 < below && inside i e below unit
    let aboveIn := inside i e (below + 1) unit
    let belowNearer := 2 * (num - below * den) < den
    if belowIn && (belowNearer || !aboveIn) then (below, unit)
    else if aboveIn then (below + 1, unit)
    else search i m e top (n + 1) fuel

/-- Digits and the power of ten of their last place. The upper neighbour on the first grid may be
the next power of ten. -/
def digits (m : Nat) (e : Int) : Nat × Int :=
  let (n, unit) := search (rounding m e) m e (magnitude ⟨m * Nat.pow 2 e.toNat, Nat.pow 2 (-e).toNat⟩) 1 17
  if n = 10 then (1, unit + 1) else (n, unit)

/-- In positional notation, whatever the size, and without a point where it is not needed. -/
def positional (n : Nat) (unit : Int) : List Char :=
  let ds := Decimal.digitsOf n
  if 0 ≤ unit then ds ++ List.replicate unit.toNat '0'
  else
    let places := (-unit).toNat
    let ds := List.replicate (places + 1 - ds.length) '0' ++ ds
    ds.take (ds.length - places) ++ '.' :: ds.drop (ds.length - places)

/-- Settings that are written as text show a float this way. -/
def text (x : Float) : String :=
  match Binary64.classify x with
  | .nan => "NaN"
  | .infinite negative => if negative then "-inf" else "inf"
  | .finite negative m e =>
    let magnitude := if m = 0 then ['0'] else
      let (n, unit) := digits m e
      positional n unit
    String.ofList (if negative then '-' :: magnitude else magnitude)

end Entitlement.Shortest
