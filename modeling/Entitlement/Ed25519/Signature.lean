import Entitlement.Digest.Sha512
import Entitlement.Ed25519.Curve

/-!
Signatures by Ed25519. A secret of 32 bytes is stretched to a scalar and a prefix; the prefix and
the message give the number behind the point `R`, and `S` ties it to the public key.
-/

namespace Entitlement.Ed25519

/-- The scalar that a secret stands for: a multiple of eight with its top bit fixed. -/
def scalarOf (secret : Bytes) : Nat :=
  let n := ofLittleEndian ((Sha512.digest secret).take 32)
  n % Nat.pow 2 254 / 8 * 8 + Nat.pow 2 254

def prefixOf (secret : Bytes) : Bytes := (Sha512.digest secret).drop 32

def hashScalar (bs : Bytes) : Nat := ofLittleEndian (Sha512.digest bs) % order

def publicKey (secret : Bytes) : Bytes := (basePoint.scale (scalarOf secret)).encode

def sign (secret message : Bytes) : Bytes :=
  let key := publicKey secret
  let r := hashScalar (prefixOf secret ++ message)
  let commitment := (basePoint.scale r).encode
  let k := hashScalar (commitment ++ key ++ message)
  commitment ++ littleEndian 32 ((r + k * scalarOf secret) % order)

/-- The bytes are the form of a point. -/
def isKey (key : Bytes) : Bool := (Point.decode? key).isSome

/-- `S` must be below the order, and `R` must be the written form of the point recomputed. -/
def verify (key message signature : Bytes) : Bool :=
  let commitment := signature.take 32
  let s := ofLittleEndian (signature.drop 32)
  s < order && (Point.decode? key).any fun point =>
    let k := hashScalar (commitment ++ key ++ message)
    ((basePoint.scale s).add (point.neg.scale k)).encode == commitment

end Entitlement.Ed25519
