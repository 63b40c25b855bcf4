import Entitlement.Auth.KeyPair

/-!
Whoever signs the requests of a client. Signing needs the time of day and a fresh nonce.
-/

namespace Entitlement

/-- What a signature takes from outside: seconds since the epoch, negative before it, and a nonce. -/
structure SigningMoment where
  wallSeconds : Int
  nonce : String

/-- The time of day as requests carry it. -/
def unixTime (wallSeconds : Int) : Except AuthError Int64 :=
  if wallSeconds < 0 then .error .clockBeforeEpoch else .ok (Int64.ofInt wallSeconds)

structure Authenticator where
  identity : String
  publicKey : String
  authenticate : SigningMoment → (method path : String) → Bytes → Except AuthError SignedRequest

def KeyPair.authenticator {scheme : SignatureScheme} (k : KeyPair scheme) : Authenticator where
  identity := k.identity
  publicKey := k.publicKey
  authenticate moment method path body :=
    (unixTime moment.wallSeconds).map fun timestamp =>
      k.signAt method path body timestamp moment.nonce

end Entitlement
