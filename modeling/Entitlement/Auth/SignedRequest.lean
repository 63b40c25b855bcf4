import Entitlement.ClientError
import Entitlement.Codec.Base64
import Entitlement.Codec.Hex
import Entitlement.Digest.Sha256

/-!
What proves where a request comes from: four headers, and the text that the signature in them is
made for. The text names the request line by line, the body by its digest.
-/

namespace Entitlement

inductive AuthError
  | missingHeader (name : String)
  | invalidTimestamp (e : Decimal.ReadError)
  /-- The age of the request is no machine word. -/
  | ageOverflow
  | ageOutOfRange (age : Int64)
  | keyEncoding (e : Base64.DecodeError)
  | keySize
  | invalidKey
  | signatureEncoding (e : Hex.DecodeError)
  | invalidSignature
  | mismatch
  | secretEncoding (e : Hex.DecodeError)
  | secretSize
  | clockBeforeEpoch
  deriving DecidableEq, Repr

def AuthError.message : AuthError → String
  | missingHeader name => "missing header " ++ name
  | invalidTimestamp e => "invalid timestamp: " ++ e.message
  | ageOverflow => "timestamp out of range"
  | ageOutOfRange age => "timestamp out of range (diff: " ++ Decimal.ofInt64 age ++ " seconds)"
  | keyEncoding e => "failed to decode public key: " ++ e.message
  | keySize => "public key must be 32 bytes"
  | invalidKey => "invalid public key: signature error: Cannot decompress Edwards point"
  | signatureEncoding e => "failed to decode signature: " ++ e.message
  | invalidSignature => "invalid signature: signature error"
  | mismatch => "signature verification failed"
  | secretEncoding e => "invalid secret key hex: " ++ e.message
  | secretSize => "secret key must be 32 bytes"
  | clockBeforeEpoch =>
    "system clock before unix epoch: second time provided was later than self"

def ClientError.ofAuth (e : AuthError) : ClientError := .auth e.message

structure SignedRequest where
  publicKey : String
  timestamp : Int64
  nonce : String
  signature : String
  deriving DecidableEq, Repr, Inhabited

namespace SignedRequest

def publicKeyHeader : String := "X-LCC-PublicKey"
def timestampHeader : String := "X-LCC-Timestamp"
def nonceHeader : String := "X-LCC-Nonce"
def signatureHeader : String := "X-LCC-Signature"

def headers (s : SignedRequest) : List (String × String) :=
  [(publicKeyHeader, s.publicKey), (timestampHeader, Decimal.ofInt64 s.timestamp),
   (nonceHeader, s.nonce), (signatureHeader, s.signature)]

/-- An empty header counts as missing. -/
def header (lookup : String → Option String) (name : String) : Except AuthError String :=
  match lookup name with
  | some value => if value.isEmpty then .error (.missingHeader name) else .ok value
  | none => .error (.missingHeader name)

/-- The timestamp is looked at before the other headers. -/
def ofHeaders (lookup : String → Option String) : Except AuthError SignedRequest := do
  let text ← header lookup timestampHeader
  let timestamp ← (Decimal.readInt64 text).mapError .invalidTimestamp
  let publicKey ← header lookup publicKeyHeader
  let nonce ← header lookup nonceHeader
  let signature ← header lookup signatureHeader
  return ⟨publicKey, timestamp, nonce, signature⟩

end SignedRequest

/-- The digest of a body, in hexadecimal digits. -/
def bodyHash (body : Bytes) : String := Hex.encode (Sha256.digest body)

/-- ASCII letters of the method become capitals, and nothing else changes. -/
def upperMethod (method : String) : String := method.map Char.toUpper

/-- The text that is signed. -/
def canonicalText (method path : String) (body : Bytes) (timestamp : Int64) (nonce : String) : String :=
  "\n".intercalate [upperMethod method, path, bodyHash body, Decimal.ofInt64 timestamp, nonce]

end Entitlement
