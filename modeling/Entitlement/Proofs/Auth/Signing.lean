import Entitlement.Proofs.Auth.CanonicalText
import Entitlement.Proofs.Codec.Base64

/-!
What a client signs, the authority accepts while it is fresh and only then (`signed_verifies`). Of the signature
scheme it is assumed that a signature made with a secret verifies under its public key.
-/

namespace Entitlement

open HttpAuthority (exampleAuthority productUrl url_product)

/-! ### Age -/

/-- How old a request is, in exact integers. -/
def exactAge (now timestamp : Int64) : Int := now.toInt - timestamp.toInt

/-- The verdict on the age of a request alone. -/
def ageVerdict (now timestamp : Int64) : Except ClientError Unit :=
  let age := exactAge now timestamp
  if -60 ≤ age ∧ age ≤ 300 then .ok ()
  else if -0x8000000000000000 ≤ age ∧ age < 0x8000000000000000 then
    .error (.auth ("timestamp out of range (diff: " ++ Decimal.ofInt age ++ " seconds)"))
  else .error (.auth "timestamp out of range")

theorem toInt_ofInt {i : Int} (fits : -0x8000000000000000 ≤ i ∧ i < 0x8000000000000000) : (Int64.ofInt i).toInt = i :=
  Int64.toInt_ofInt_of_le fits.1 fits.2

/-- The bounds on the age are those on the machine word, if the age is one. -/
theorem outOfRange_iff {age : Int} (fits : -0x8000000000000000 ≤ age ∧ age < 0x8000000000000000) :
    (maxAge < Int64.ofInt age ∨ Int64.ofInt age < -maxSkew) ↔ ¬(-60 ≤ age ∧ age ≤ 300) := by
  have oldest : maxAge.toInt = 300 := by decide
  have newest : (-maxSkew).toInt = -60 := by decide
  rw [Int64.lt_iff_toInt_lt, Int64.lt_iff_toInt_lt, toInt_ofInt fits, oldest, newest]
  omega

/-! ### Signatures -/

namespace Ed25519

theorem length_littleEndian (width n : Nat) : (littleEndian width n).length = width := by
  rw [littleEndian, List.length_map, List.length_range]

theorem length_publicKey (secret : Bytes) : (publicKey secret).length = 32 := by
  rw [publicKey, Point.encode, length_littleEndian]

theorem length_sign (secret message : Bytes) : (sign secret message).length = 64 := by
  simp only [sign, List.length_append, Point.encode, length_littleEndian]

/-- Nothing verifies under what is no key. -/
theorem isKey_of_verify {key message signature : Bytes} (verifies : verify key message signature = true) :
    isKey key = true := by
  rw [verify, Bool.and_eq_true, Option.any_eq_true] at verifies
  obtain ⟨_, point, found, _⟩ := verifies
  rw [isKey, found, Option.isSome_some]

end Ed25519

namespace KeyPair

variable {scheme : SignatureScheme}

@[simp] theorem signAt_timestamp (k : KeyPair scheme) (method path : String) (body : Bytes) (timestamp : Int64)
    (nonce : String) : (k.signAt method path body timestamp nonce).timestamp = timestamp := rfl

@[simp] theorem signAt_nonce (k : KeyPair scheme) (method path : String) (body : Bytes) (timestamp : Int64)
    (nonce : String) : (k.signAt method path body timestamp nonce).nonce = nonce := rfl

/-- The signature of the message verifies under the public key. -/
def Verifies (k : KeyPair scheme) (message : Bytes) : Prop :=
  scheme.verify k.publicKeyBytes message (scheme.sign k.secret message) = true

/-- The signature of the message verifies, and it and the public key have the form that a verifier expects. -/
structure Sound (k : KeyPair scheme) (message : Bytes) : Prop where
  keySize : k.publicKeyBytes.length = keySize
  isKey : scheme.isKey k.publicKeyBytes = true
  signatureSize : (scheme.sign k.secret message).length = signatureSize
  verifies : k.Verifies message

theorem sound_of_verifies {k : KeyPair .ed25519} {message : Bytes} (verifies : k.Verifies message) :
    k.Sound message := by
  constructor
  all_goals simp only [Verifies, publicKeyBytes, SignatureScheme.ed25519] at verifies ⊢
  · exact Ed25519.length_publicKey k.secret
  · exact Ed25519.isKey_of_verify verifies
  · exact Ed25519.length_sign k.secret message
  · exact verifies

theorem verifyRequest_overflow (signed : SignedRequest) {now : Int64} (overflow : age? now signed.timestamp = none)
    (method path : String) (body : Bytes) :
    scheme.verifyRequest signed method path body now = .error .ageOverflow := by
  unfold SignatureScheme.verifyRequest
  rw [overflow]
  rfl

theorem verifyRequest_stale (signed : SignedRequest) {now age : Int64} (known : age? now signed.timestamp = some age)
    (stale : maxAge < age ∨ age < -maxSkew) (method path : String) (body : Bytes) :
    scheme.verifyRequest signed method path body now = .error (.ageOutOfRange age) := by
  unfold SignatureScheme.verifyRequest
  rw [known]
  exact if_pos stale

/-- Key and signature read back as they were written. -/
theorem verifyRequest_fresh (k : KeyPair scheme) {method path : String} {body : Bytes} {timestamp now age : Int64}
    {nonce : String} (sound : k.Sound (utf8 (canonicalText method path body timestamp nonce)))
    (known : age? now timestamp = some age) (fresh : ¬(maxAge < age ∨ age < -maxSkew)) :
    scheme.verifyRequest (k.signAt method path body timestamp nonce) method path body now = .ok () := by
  have verifies : scheme.verify k.publicKeyBytes _ (scheme.sign k.secret _) = true := sound.verifies
  unfold SignatureScheme.verifyRequest
  simp only [signAt, publicKey, known, if_neg fresh, Base64.decode_encode, Hex.decode_encode, Except.mapError, bind,
    Except.bind, sound.keySize, sound.isKey, sound.signatureSize, verifies, ne_eq, not_true_eq_false,
    Bool.not_true, Bool.false_eq_true, ↓reduceIte, pure, Except.pure]

theorem verifyRequest_signAt (k : KeyPair scheme) {method path : String} {body : Bytes} {timestamp : Int64}
    {nonce : String} (sound : k.Sound (utf8 (canonicalText method path body timestamp nonce))) (now : Int64) :
    (scheme.verifyRequest (k.signAt method path body timestamp nonce) method path body now).mapError
      ClientError.ofAuth = ageVerdict now timestamp := by
  unfold ageVerdict
  by_cases fits : -0x8000000000000000 ≤ exactAge now timestamp ∧ exactAge now timestamp < 0x8000000000000000
  · have known : age? now timestamp = some (Int64.ofInt (exactAge now timestamp)) := if_pos fits
    have range := outOfRange_iff fits
    by_cases fresh : -60 ≤ exactAge now timestamp ∧ exactAge now timestamp ≤ 300
    · rw [verifyRequest_fresh k sound known fun stale => range.mp stale fresh]
      exact (if_pos fresh).symm
    · have written :
          Decimal.ofInt64 (Int64.ofInt (exactAge now timestamp)) = Decimal.ofInt (exactAge now timestamp) := by
        rw [Decimal.ofInt64, toInt_ofInt fits]
      rw [verifyRequest_stale (k.signAt ..) known (range.mpr fresh)]
      simp only [if_neg fresh, if_pos fits, ← written]
      rfl
  · have overflow : age? now timestamp = none := if_neg fits
    have stale : ¬(-60 ≤ exactAge now timestamp ∧ exactAge now timestamp ≤ 300) := by omega
    rw [verifyRequest_overflow (k.signAt ..) overflow]
    simp only [if_neg stale, if_neg fits]
    rfl

theorem signAt_anyCase (k : KeyPair scheme) {method method' : String}
    (same : Text.asciiLower method = Text.asciiLower method') (path : String) (body : Bytes) (timestamp : Int64)
    (nonce : String) : k.signAt method path body timestamp nonce = k.signAt method' path body timestamp nonce := by
  simp only [signAt, canonicalText_anyCase same]

end KeyPair

/-! ### Requests -/

/-- What is signed is what is sent. -/
theorem HttpAuthority.message_signed {h : HttpAuthority} {moment : SigningMoment} {r : AuthorityRequest}
    {sent : HttpRequest} (sends : h.message moment r = .ok sent) :
    ∃ signed, h.authenticator.authenticate moment sent.method sent.url.pathText sent.body = .ok signed ∧
      sent.headers = ("content-type", "application/json") :: signed.headers := by
  obtain ⟨url, _, sends⟩ := ok_of_bind sends
  obtain ⟨signed, signs, sends⟩ := ok_of_bind sends
  cases sends
  exact ⟨signed, ok_of_mapError signs, rfl⟩

theorem KeyPair.authenticate_signs {scheme : SignatureScheme} {k : KeyPair scheme} {moment : SigningMoment}
    {method path : String} {body : Bytes} {signed : SignedRequest}
    (made : k.authenticator.authenticate moment method path body = .ok signed) :
    ∃ timestamp, signed = k.signAt method path body timestamp moment.nonce := by
  obtain ⟨timestamp, _, rfl⟩ := ok_of_map made
  exact ⟨timestamp, rfl⟩

/-- Requests signed by a key pair verify while they are fresh, with the method in any case; and what is signed is the
request that is sent. -/
theorem signed_verifies :
    (∀ (k : KeyPair .ed25519) (method method' path : String) (body : Bytes) (timestamp now : Int64) (nonce : String),
      Text.asciiLower method = Text.asciiLower method' →
      k.Verifies (utf8 (canonicalText method path body timestamp nonce)) →
      (SignatureScheme.ed25519.verifyRequest (k.signAt method path body timestamp nonce) method' path body now).mapError
        ClientError.ofAuth = ageVerdict now timestamp) ∧
    ∀ (h : HttpAuthority) (moment : SigningMoment) (r : AuthorityRequest) (sent : HttpRequest),
      h.message moment r = .ok sent →
      ∃ signed, h.authenticator.authenticate moment sent.method sent.url.pathText sent.body = .ok signed ∧
        sent.headers = ("content-type", "application/json") :: signed.headers ∧
        ∀ k : KeyPair .ed25519, h.authenticator = k.authenticator →
          k.Verifies (utf8 (canonicalText sent.method sent.url.pathText sent.body signed.timestamp signed.nonce)) →
          ∀ now, (SignatureScheme.ed25519.verifyRequest signed sent.method sent.url.pathText sent.body now).mapError
            ClientError.ofAuth = ageVerdict now signed.timestamp := by
  constructor
  · intro k method method' path body timestamp now nonce same verifies
    rw [canonicalText_anyCase same] at verifies
    rw [k.signAt_anyCase same]
    exact k.verifyRequest_signAt (KeyPair.sound_of_verifies verifies) now
  · intro h moment r sent sends
    obtain ⟨signed, made, headers⟩ := HttpAuthority.message_signed sends
    refine ⟨signed, made, headers, fun k own verifies now => ?_⟩
    rw [own] at made
    obtain ⟨timestamp, rfl⟩ := KeyPair.authenticate_signs made
    simp only [KeyPair.signAt_timestamp, KeyPair.signAt_nonce] at verifies ⊢
    exact k.verifyRequest_signAt (KeyPair.sound_of_verifies verifies) now

/-- A check of the product, as the keys of the examples sign it. -/
def productCheck : SignedRequest := exampleKeys.signAt "GET" productUrl.pathText [] 1700000000 "nonce"

/-- The text that its signature is of. -/
def productMessage : Bytes := utf8 (canonicalText "GET" productUrl.pathText [] 1700000000 "nonce")

/-- Its bytes. -/
def productBytes : Bytes := [
  71, 69, 84, 10, 47, 97, 112, 105, 47, 118, 49, 47, 115, 100, 107, 47, 102, 101, 97, 116, 117, 114, 101, 115, 47,
  95, 95, 112, 114, 111, 100, 117, 99, 116, 95, 95, 47, 99, 104, 101, 99, 107, 10, 101, 51, 98, 48, 99, 52, 52,
  50, 57, 56, 102, 99, 49, 99, 49, 52, 57, 97, 102, 98, 102, 52, 99, 56, 57, 57, 54, 102, 98, 57, 50, 52, 50, 55,
  97, 101, 52, 49, 101, 52, 54, 52, 57, 98, 57, 51, 52, 99, 97, 52, 57, 53, 57, 57, 49, 98, 55, 56, 53, 50, 98,
  56, 53, 53, 10, 49, 55, 48, 48, 48, 48, 48, 48, 48, 48, 10, 110, 111, 110, 99, 101]

theorem productMessage_bytes : productMessage = productBytes := by
  have nothing : bodyHash [] = "e3b0c44298fc1c149afbf4c8996fb92427ae41e4649b934ca495991b7852b855" := by
    decide +kernel
  rw [productMessage, utf8, canonicalText_lines, nothing]
  decide +kernel

/-- What the signature is made of: the public key and the point `R`, both as they are written, the number behind `R`,
what ties `S` to the key and to the message, and `S`. -/
structure SignatureParts where
  key : Nat
  nonce : Nat
  commitment : Nat
  challenge : Nat
  answer : Nat

def productParts : SignatureParts where
  key := 0x2cd2461469ea1e42927bbebeae764795f9c52e137b50f5be0a529ce2636c4aea
  nonce := 0xa89475b237f785205d1e3491ddc0454614ac0a3fc0542c88b7d1a29fd6040d7
  commitment := 0xe2820ce4f6c77abcdf81cd85439879de70fcce522155c968be8e752c8a52d475
  challenge := 0xaa7d16b29572825301420929921759ca4883104ba86a89aeee33a26671991fe
  answer := 0xfb5d68839096fd2a134d89f400d36682e7afbf89499566c97b7cbdcaab88a7a

open Ed25519 in
theorem productCheck_verifies : exampleKeys.Verifies productMessage := by
  -- Each number is computed once, from numbers that are known already.
  have digest : Sha512.digest exampleKeys.secret = littleEndian 64
      (0xa55234985540e526c83040c59b0c21257485e4ae2a057cacdb656d50b36d7d9c * Nat.pow 2 256 +
        0xf82839ca4b4c7e4e8a28a8485c052d1ae699f5ee26c6a900e2a37ffdfe39ad2f) := by
    decide +kernel
  have key : publicKey exampleKeys.secret = littleEndian 32 productParts.key := by
    rw [publicKey, scalarOf, digest]
    decide +kernel
  have nonce : hashScalar (prefixOf exampleKeys.secret ++ productMessage) = productParts.nonce := by
    rw [prefixOf, digest, productMessage_bytes]
    decide +kernel
  have commitment : (basePoint.scale productParts.nonce).encode = littleEndian 32 productParts.commitment := by
    decide +kernel
  have challenge : hashScalar (littleEndian 32 productParts.commitment ++ littleEndian 32 productParts.key ++
      productMessage) = productParts.challenge := by
    rw [productMessage_bytes]
    decide +kernel
  have signature : sign exampleKeys.secret productMessage =
      littleEndian 32 productParts.commitment ++ littleEndian 32 productParts.answer := by
    simp only [sign, key, nonce, commitment, challenge, scalarOf, digest]
    decide +kernel
  have front : (littleEndian 32 productParts.commitment ++ littleEndian 32 productParts.answer).take 32 =
      littleEndian 32 productParts.commitment := List.take_left' (length_littleEndian 32 _)
  simp only [KeyPair.Verifies, KeyPair.publicKeyBytes, SignatureScheme.ed25519, key, signature, verify, front,
    challenge]
  decide +kernel

theorem message_product :
    exampleAuthority.message ⟨1700000000, "nonce"⟩ (.check .product) =
      .ok ⟨"GET", productUrl, ("content-type", "application/json") :: productCheck.headers, []⟩ := by
  unfold HttpAuthority.message
  rw [url_product]
  rfl

/-- It is good for 60 seconds before it was signed, and for 300 seconds from then on. -/
theorem productCheck_expires :
    (SignatureScheme.ed25519.verifyRequest productCheck "gEt" productUrl.pathText [] 1700000300).mapError
        ClientError.ofAuth = .ok () ∧
      (SignatureScheme.ed25519.verifyRequest productCheck "gEt" productUrl.pathText [] 1700000301).mapError
        ClientError.ofAuth = .error (.auth "timestamp out of range (diff: 301 seconds)") ∧
      ∃ sent signed, exampleAuthority.message ⟨1700000000, "nonce"⟩ (.check .product) = .ok sent ∧
        sent.headers = ("content-type", "application/json") :: signed.headers ∧
        (SignatureScheme.ed25519.verifyRequest signed sent.method sent.url.pathText sent.body 1699999940).mapError
          ClientError.ofAuth = .ok () := by
  have verdict (now : Int64) := signed_verifies.1 exampleKeys "GET" "gEt" productUrl.pathText [] 1700000000 now "nonce"
    (by simp [Text.asciiLower, ← String.toList_inj]) productCheck_verifies
  obtain ⟨signed, made, headers, accepted⟩ := signed_verifies.2 exampleAuthority _ _ _ message_product
  have same : signed = productCheck := (Except.ok.inj made).symm
  rw [same] at headers accepted
  refine ⟨(verdict 1700000300).trans ?_, (verdict 1700000301).trans ?_, _, productCheck, message_product, headers,
    (accepted exampleKeys rfl productCheck_verifies 1699999940).trans ?_⟩
  · rfl
  · rfl
  · rfl

end Entitlement
