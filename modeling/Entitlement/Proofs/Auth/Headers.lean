import Entitlement.Auth.SignedRequest
import Entitlement.Proofs.Number.Decimal
import Entitlement.Proofs.Outcome

/-!
The four headers of a signed request carry all of it. Whoever looks them up gets the request back if each of them is
there with something in it and the timestamp spells an integer of 64 bits, and is told what is wrong with one of them
otherwise (`headers_carry`).
-/

namespace Entitlement.SignedRequest

variable {lookup : String → Option String}

/-- The headers that are looked up are there, none of them empty, and say what the request says. -/
structure Carried (lookup : String → Option String) (s : SignedRequest) : Prop where
  publicKey : lookup publicKeyHeader = some s.publicKey ∧ s.publicKey ≠ ""
  timestamp : ∃ text, lookup timestampHeader = some text ∧ Decimal.Spells text.toList s.timestamp
  nonce : lookup nonceHeader = some s.nonce ∧ s.nonce ≠ ""
  signature : lookup signatureHeader = some s.signature ∧ s.signature ≠ ""

theorem header_eq_ok_iff {name value : String} :
    header lookup name = .ok value ↔ lookup name = some value ∧ value ≠ "" := by
  unfold header
  split
  · next given found =>
    rw [found, Option.some.injEq]
    by_cases empty : given = ""
    · subst empty
      refine iff_of_false nofun ?_
      rintro ⟨rfl, something⟩
      exact something rfl
    · rw [if_neg (by simpa using empty), Except.ok.injEq]
      refine ⟨fun same => ⟨same, same ▸ empty⟩, And.left⟩
  · next missing =>
    rw [missing]
    exact iff_of_false nofun nofun

theorem header_eq_error {name : String} {e : AuthError} (failed : header lookup name = .error e) :
    e = .missingHeader name ∧ ∀ value, lookup name = some value → value = "" := by
  unfold header at failed
  split at failed
  · next given found =>
    split at failed
    · next empty =>
      cases failed
      refine ⟨rfl, fun value same => ?_⟩
      cases found.symm.trans same
      simpa using empty
    · cases failed
  · next missing =>
    cases failed
    refine ⟨rfl, fun value same => ?_⟩
    cases missing.symm.trans same

theorem ofHeaders_eq_ok_iff {s : SignedRequest} : ofHeaders lookup = .ok s ↔ Carried lookup s := by
  constructor
  · intro read
    obtain ⟨text, found, read⟩ := ok_of_bind read
    obtain ⟨timestamp, spelled, read⟩ := ok_of_bind read
    obtain ⟨publicKey, hasKey, read⟩ := ok_of_bind read
    obtain ⟨nonce, hasNonce, read⟩ := ok_of_bind read
    obtain ⟨signature, hasSignature, read⟩ := ok_of_bind read
    cases read
    have spells := Decimal.readInt64_eq_ok_iff.mp (ok_of_mapError spelled)
    exact ⟨header_eq_ok_iff.mp hasKey, ⟨text, (header_eq_ok_iff.mp found).1, spells⟩, header_eq_ok_iff.mp hasNonce,
      header_eq_ok_iff.mp hasSignature⟩
  · rintro ⟨hasKey, ⟨text, found, spells⟩, hasNonce, hasSignature⟩
    have something : text ≠ "" := by
      rintro rfl
      exact spells.ne_nil rfl
    rw [ofHeaders, header_eq_ok_iff.mpr ⟨found, something⟩, header_eq_ok_iff.mpr hasKey, header_eq_ok_iff.mpr hasNonce,
      header_eq_ok_iff.mpr hasSignature]
    show (Decimal.readInt64 text).mapError _ >>= _ = _
    rw [Decimal.readInt64_eq_ok_iff.mpr spells]
    rfl

/-- The headers that a request is sent with carry it, whatever else comes with them. -/
theorem carried_headers {s : SignedRequest} (key : s.publicKey ≠ "") (nonce : s.nonce ≠ "")
    (signature : s.signature ≠ "") (sent : ∀ h ∈ s.headers, lookup h.1 = some h.2) : Carried lookup s := by
  simp only [headers, List.forall_mem_cons] at sent
  obtain ⟨sentKey, sentTimestamp, sentNonce, sentSignature, _⟩ := sent
  have spells := Decimal.readInt64_eq_ok_iff.mp (Decimal.readInt64_ofInt64 s.timestamp)
  exact ⟨⟨sentKey, key⟩, ⟨_, sentTimestamp, spells⟩, ⟨sentNonce, nonce⟩, ⟨sentSignature, signature⟩⟩

/-- What is wrong with the headers: one of them is missing or empty, or the timestamp spells nothing. -/
inductive Faulty (lookup : String → Option String) : AuthError → Prop
  | missing {name : String} (known : name ∈ [publicKeyHeader, timestampHeader, nonceHeader, signatureHeader])
    (nothing : ∀ value, lookup name = some value → value = "") : Faulty lookup (.missingHeader name)
  | timestamp {text : String} {e : Decimal.ReadError} (found : lookup timestampHeader = some text)
    (unspelled : ∀ i, ¬ Decimal.Spells text.toList i) : Faulty lookup (.invalidTimestamp e)

theorem faulty_of_error {e : AuthError} (failed : ofHeaders lookup = .error e) : Faulty lookup e := by
  have missing {name : String} (known : name ∈ [publicKeyHeader, timestampHeader, nonceHeader, signatureHeader])
      (failed : header lookup name = .error e) : Faulty lookup e := by
    obtain ⟨rfl, nothing⟩ := header_eq_error failed
    exact .missing known nothing
  rcases error_of_bind failed with failed | ⟨text, found, failed⟩
  · exact missing (by decide) failed
  rcases error_of_bind failed with failed | ⟨timestamp, _, failed⟩
  · obtain ⟨e', unread, rfl⟩ := error_of_mapError failed
    refine .timestamp (header_eq_ok_iff.mp found).1 fun i spells => ?_
    cases (Decimal.readInt64_eq_ok_iff.mpr spells).symm.trans unread
  rcases error_of_bind failed with failed | ⟨_, _, failed⟩
  · exact missing (by decide) failed
  rcases error_of_bind failed with failed | ⟨_, _, failed⟩
  · exact missing (by decide) failed
  rcases error_of_bind failed with failed | ⟨_, _, failed⟩
  · exact missing (by decide) failed
  · cases failed

/-- The headers of a request give it back. Headers are read exactly if all four are there, none of them empty, and the
timestamp is a number within 64 bits. -/
theorem headers_carry :
    (∀ s : SignedRequest, s.publicKey ≠ "" → s.nonce ≠ "" → s.signature ≠ "" →
      ∀ lookup, (∀ h ∈ s.headers, lookup h.1 = some h.2) → ofHeaders lookup = .ok s) ∧
    ∀ lookup, (∀ s, ofHeaders lookup = .ok s ↔ Carried lookup s) ∧
      ((∀ s, ¬ Carried lookup s) → ∃ e, (ofHeaders lookup).mapError ClientError.ofAuth = .error (.auth e.message) ∧
        Faulty lookup e) := by
  refine ⟨fun s key nonce signature lookup sent => ?_, fun lookup => ⟨fun s => ofHeaders_eq_ok_iff, fun none => ?_⟩⟩
  · exact ofHeaders_eq_ok_iff.mpr (carried_headers key nonce signature sent)
  · cases read : ofHeaders lookup with
    | ok s => exact (none s (ofHeaders_eq_ok_iff.mp read)).elim
    | error e => exact ⟨e, rfl, faulty_of_error read⟩

def earliestRequest : SignedRequest := ⟨"key", Int64.minValue, "nonce", "signature"⟩

def alike (value : String) : String → Option String := fun _ => some value

/-- The earliest request comes back; a plus and zeros are read over; a number past the end of the range is refused. -/
theorem earliestRequest_carried :
    ofHeaders (fun name => earliestRequest.headers.lookup name) = .ok earliestRequest ∧
    ofHeaders (alike "+007") = .ok ⟨"+007", 7, "+007", "+007"⟩ ∧
    ∃ e, (ofHeaders (alike "9223372036854775808")).mapError ClientError.ofAuth = .error (.auth e.message) ∧
      Faulty (alike "9223372036854775808") e := by
  obtain ⟨back, read⟩ := headers_carry
  have seven : Decimal.Spells "+007".toList 7 := .plus ⟨by decide, List.all_eq_true.mp (by decide)⟩ (by decide)
  have tooLarge : (ofHeaders (alike "9223372036854775808")).toOption = none := by decide +kernel
  refine ⟨back _ (by decide) (by decide) (by decide) _ (by decide), ?_, (read _).2 fun s carried => ?_⟩
  · exact ((read _).1 _).mpr ⟨⟨rfl, by decide⟩, ⟨_, rfl, seven⟩, ⟨rfl, by decide⟩, ⟨rfl, by decide⟩⟩
  · rw [((read _).1 s).mpr carried] at tooLarge
    cases tooLarge

end Entitlement.SignedRequest
