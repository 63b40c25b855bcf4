import Entitlement.Ed25519.Field
import Entitlement.Text.Utf8

/-!
The curve `-x² + y² = 1 + d x² y²`, with points in extended coordinates so that adding needs no
division, and the form of a point in 32 bytes.
-/

namespace Entitlement.Ed25519

open Entitlement.Ed25519.Field

/-- The coefficient `d`. -/
def curveD : Nat := div (prime - 121665) 121666

/-- Stands for the affine point `(x / z, y / z)`; `t` is `x * y / z`. -/
structure Point where
  x : Nat
  y : Nat
  z : Nat
  t : Nat

namespace Point

def neutral : Point := ⟨0, 1, 1, 0⟩

def ofAffine (x y : Nat) : Point := ⟨x, y, 1, mul x y⟩

def neg (p : Point) : Point := ⟨sub 0 p.x, p.y, p.z, sub 0 p.t⟩

/-- One formula for all points, equal ones included. -/
def add (p q : Point) : Point :=
  let a := mul (sub p.y p.x) (sub q.y q.x)
  let b := mul (Field.add p.y p.x) (Field.add q.y q.x)
  let c := mul (mul p.t q.t) (mul 2 curveD)
  let d := mul (mul p.z q.z) 2
  let e := sub b a
  let f := sub d c
  let g := Field.add d c
  let h := Field.add b a
  ⟨mul e f, mul g h, mul f g, mul e h⟩

/-- The sum of `n` times `p`, by doubling along the binary digits of `n`. -/
def scale (n : Nat) (p : Point) : Point :=
  if h : n = 0 then neutral
  else
    let half := scale (n / 2) p
    let double := half.add half
    if n % 2 = 1 then double.add p else double
termination_by n
decreasing_by exact Nat.div_lt_self (Nat.pos_of_ne_zero h) (by decide)

end Point

/-- `n` as `width` bytes, the least significant first. -/
def littleEndian (width n : Nat) : Bytes :=
  (List.range width).map fun i => UInt8.ofNat (n / Nat.pow 256 i % 256)

def ofLittleEndian (bs : Bytes) : Nat := bs.foldr (fun b n => b.toNat + 256 * n) 0

/-- The 255 bits of `y`, and the lowest bit of `x` above them. -/
def Point.encode (p : Point) : Bytes :=
  let x := div p.x p.z
  let y := div p.y p.z
  littleEndian 32 (y + Nat.pow 2 255 * (x % 2))

/-- The point with this form. The number for `y` may exceed the prime, and `x` may be zero whatever
its bit says. -/
def Point.decode? (bs : Bytes) : Option Point :=
  let n := ofLittleEndian bs
  let y := n % Nat.pow 2 255 % prime
  let odd := n / Nat.pow 2 255 % 2
  let yy := mul y y
  (sqrtRatio? (sub yy 1) (Field.add (mul curveD yy) 1)).map fun x =>
    .ofAffine (if x % 2 = odd then x else sub 0 x) y

/-- The base point has `y = 4 / 5` and an even `x`. -/
def basePoint : Point := (Point.decode? (littleEndian 32 (div 4 5))).getD .neutral

end Entitlement.Ed25519
