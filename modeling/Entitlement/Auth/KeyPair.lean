import Entitlement.Auth.SignedRequest
import Entitlement.Ed25519.Signature
import Entitlement.Text.Blank

/-!
Key pairs, and requests signed and verified with them. Both are stated for any signature scheme on
secrets and keys of 32 bytes and signatures of 64; Ed25519 is the one in use.
-/

namespace Entitlement

structure SignatureScheme where
  publicKey : Bytes → Bytes
  /-- The bytes are a key. -/
  isKey : Bytes → Bool
  sign : (secret message : Bytes) → Bytes
  verify : (key message signature : Bytes) → Bool

def SignatureScheme.ed25519 : SignatureScheme :=
  ⟨Ed25519.publicKey, Ed25519.isKey, Ed25519.sign, Ed25519.verify⟩

def secretSize : Nat := 32
def keySize : Nat := 32
def signatureSize : Nat := 64

/-- A request may be this old when it arrives, in seconds. -/
def maxAge : Int64 := 300

/-- A clock may be this far ahead of the verifier's, in seconds. -/
def maxSkew : Int64 := 60

/-- How old a request is, if that is a machine word. -/
def age? (now timestamp : Int64) : Option Int64 :=
  let age := now.toInt - timestamp.toInt
  if -0x8000000000000000 ≤ age ∧ age < 0x8000000000000000 then some (Int64.ofInt age) else none

/-- The age is looked at first, then the key, then the form of the signature, then the signature. -/
def SignatureScheme.verifyRequest (scheme : SignatureScheme) (signed : SignedRequest)
    (method path : String) (body : Bytes) (now : Int64) : Except AuthError Unit := do
  match age? now signed.timestamp with
  | none => throw .ageOverflow
  | some age => if maxAge < age ∨ age < -maxSkew then throw (.ageOutOfRange age)
  let key ← (Base64.decode signed.publicKey).mapError .keyEncoding
  if key.length ≠ keySize then throw .keySize
  if !scheme.isKey key then throw .invalidKey
  let signature ← (Hex.decode signed.signature).mapError .signatureEncoding
  if signature.length ≠ signatureSize then throw .invalidSignature
  let text := canonicalText method path body signed.timestamp signed.nonce
  if scheme.verify key (utf8 text) signature then return () else throw .mismatch

/-- A secret, for use with one scheme. -/
structure KeyPair (scheme : SignatureScheme) where
  secret : Bytes
  size : secret.length = secretSize

namespace KeyPair

variable {scheme : SignatureScheme}

def publicKeyBytes (k : KeyPair scheme) : Bytes := scheme.publicKey k.secret

def publicKey (k : KeyPair scheme) : String := Base64.encode k.publicKeyBytes

/-- The fingerprint of a public key: its digest, in hexadecimal digits. -/
def fingerprint (key : Bytes) : String := Hex.encode (Sha256.digest key)

def identity (k : KeyPair scheme) : String := fingerprint k.publicKeyBytes

def ofBytes (secret : Bytes) : Except AuthError (KeyPair scheme) :=
  if h : secret.length = secretSize then .ok ⟨secret, h⟩ else .error .secretSize

/-- White space around the digits does not matter. -/
def ofHex (text : String) : Except AuthError (KeyPair scheme) := do
  let secret ← (Hex.decode (String.ofList (Text.trim text.toList))).mapError .secretEncoding
  ofBytes secret

def secretHex (k : KeyPair scheme) : String := Hex.encode k.secret

def signAt (k : KeyPair scheme) (method path : String) (body : Bytes) (timestamp : Int64)
    (nonce : String) : SignedRequest where
  publicKey := k.publicKey
  timestamp := timestamp
  nonce := nonce
  signature := Hex.encode (scheme.sign k.secret (utf8 (canonicalText method path body timestamp nonce)))

def shown (k : KeyPair scheme) : String :=
  Text.shown "KeyPairAuthenticator" [("identity", Text.quoted k.identity)] true

end KeyPair

end Entitlement
