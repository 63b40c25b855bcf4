/-!
Arithmetic modulo the prime `2 ^ 255 - 19`, on natural numbers below it.
-/

namespace Entitlement.Ed25519

/-- The prime of the field. -/
def prime : Nat := Nat.pow 2 255 - 19

/-- The order of the base point. -/
def order : Nat := Nat.pow 2 252 + 27742317777372353535851937790883648493

namespace Field

def add (a b : Nat) : Nat := (a + b) % prime

def sub (a b : Nat) : Nat := (a + (prime - b % prime)) % prime

def mul (a b : Nat) : Nat := a * b % prime

/-- By squaring along the binary digits of the exponent. -/
def pow (a n : Nat) : Nat :=
  if h : n = 0 then 1
  else
    let half := pow a (n / 2)
    let square := mul half half
    if n % 2 = 1 then mul square a else square
termination_by n
decreasing_by exact Nat.div_lt_self (Nat.pos_of_ne_zero h) (by decide)

/-- The inverse of `a`, by the little theorem of Fermat; zero for zero. -/
def inv (a : Nat) : Nat := pow a (prime - 2)

def div (a b : Nat) : Nat := mul a (inv b)

/-- A square root of minus one. -/
def sqrtMinusOne : Nat := pow 2 ((prime - 1) / 4)

/-- A square root of `u / v`, if there is one. -/
def sqrtRatio? (u v : Nat) : Option Nat :=
  let v3 := mul (mul v v) v
  let v7 := mul (mul v3 v3) v
  let r := mul (mul u v3) (pow (mul u v7) ((prime - 5) / 8))
  let check := mul v (mul r r)
  if check = u % prime then some r
  else if check = sub 0 u then some (mul r sqrtMinusOne)
  else none

end Field

end Entitlement.Ed25519
