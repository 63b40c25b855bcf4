import Entitlement.Codec.Hex

/-!
Nonces: random identifiers of version 4, written in groups of hexadecimal digits. Four bits tell the
version and two the variant; the other bits are as random as the bytes given.
-/

namespace Entitlement.Nonce

/-- Fixes the bits that are not random. -/
def mark (i : Nat) (b : UInt8) : UInt8 :=
  if i = 6 then b % 0x10 + 0x40 else if i = 8 then b % 0x40 + 0x80 else b

/-- Where the groups end, counted in digits. -/
def groupSizes : List Nat := [8, 4, 4, 4, 12]

def group : List Nat → List Char → List (List Char)
  | [], _ => []
  | n :: ns, cs => cs.take n :: group ns (cs.drop n)

/-- From sixteen bytes. -/
def ofBytes (bs : Bytes) : String :=
  let digits := (Hex.encode (bs.mapIdx mark)).toList
  "-".intercalate ((group groupSizes digits).map String.ofList)

def isDigit (c : Char) : Bool := ('0' ≤ c && c ≤ '9') || ('a' ≤ c && c ≤ 'f')

/-- The text is a nonce as `ofBytes` writes it. -/
def isValid (s : String) : Bool :=
  let cs := s.toList
  let wellFormed := cs.length = 36 && (List.range 36).all fun i =>
    let c := cs.getD i ' '
    if i = 8 || i = 13 || i = 18 || i = 23 then c = '-' else isDigit c
  wellFormed && cs.getD 14 ' ' = '4' && ['8', '9', 'a', 'b'].contains (cs.getD 19 ' ')

end Entitlement.Nonce
