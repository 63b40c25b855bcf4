/-!
Properties of characters, given as ranges of code points.
-/

namespace Entitlement.Text

/-- First and last code points of runs, ascending. -/
abbrev Ranges := List (Nat × Nat)

def Ranges.has (rs : Ranges) (c : Char) : Bool :=
  rs.any fun r => r.1 ≤ c.toNat && c.toNat ≤ r.2

end Entitlement.Text
