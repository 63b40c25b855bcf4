/-!
Digits up to those of hexadecimal notation, of either case, and what numbers spelled with them stand for.
-/

namespace Entitlement.Digit

def value? (c : Char) : Option Nat :=
  if '0' ≤ c ∧ c ≤ '9' then some (c.toNat - 0x30)
  else if 'A' ≤ c ∧ c ≤ 'F' then some (c.toNat - 0x37)
  else if 'a' ≤ c ∧ c ≤ 'f' then some (c.toNat - 0x57)
  else none

/-- The number that digits below a base spell. -/
def number? (base : Nat) (cs : List Char) : Option Nat :=
  cs.foldlM (fun n c => (value? c).bind fun d => if d < base then some (base * n + d) else none) 0

/-- The character of a code. -/
def char? (code : Nat) : Option Char := if h : code.isValidChar then some (Char.ofNatAux code h) else none

/-- The character with the code that the next `n` digits spell, and what stands behind them. -/
def escaped? (n : Nat) (cs : List Char) : Option (Char × List Char) :=
  if cs.length < n then none
  else ((number? 16 (cs.take n)).bind char?).map fun c => (c, cs.drop n)

end Entitlement.Digit
