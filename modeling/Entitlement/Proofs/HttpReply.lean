import Entitlement.Authority
import Entitlement.Proofs.Text.Utf8

/-!
What the authority's replies mean. A check is answered only by a success that can be read (`toGrant_eq_ok_iff`),
anything else by a success alone; what else comes from the authority is an error that says what it was.
-/

namespace Entitlement.HttpReply

variable {status : Nat} {body : Bytes}

theorem body_rejected (other : status ≠ 200) :
    (complete status body).body = .error (.authority status (text status body)) := if_neg other

theorem toGrant_success :
    (complete 200 body).toGrant =
      match CheckReply.ofJson body with
      | .ok reply => .ok reply.toGrant
      | .error _ => .error (.invalidResponse "error decoding response body") := rfl

theorem toGrant_rejected (other : status ≠ 200) :
    (complete status body).toGrant = .error (.authority status (text status body)) := by
  rw [toGrant, body_rejected other]
  rfl

theorem toGrant_eq_ok_iff {grant : Grant} :
    (complete status body).toGrant = .ok grant ↔
      status = 200 ∧ ∃ r, CheckReply.ofJson body = .ok r ∧ r.toGrant = grant := by
  by_cases success : status = 200
  · rw [success, toGrant_success]
    cases CheckReply.ofJson body <;> simp
  · rw [toGrant_rejected success]
    exact iff_of_false nofun fun granted => success granted.1

theorem toGrant_unreadable (unread : ∀ r, CheckReply.ofJson body ≠ .ok r) :
    (complete 200 body).toGrant = .error (.invalidResponse "error decoding response body") := by
  rw [toGrant_success]
  cases read : CheckReply.ofJson body with
  | ok r => exact (unread r read).elim
  | error f => rfl

theorem toGrant_error {reply : HttpReply} {e : ClientError} (failed : reply.toGrant = .error e) :
    e.isTransport = true := by
  cases reply with
  | timedOut | broken =>
    cases failed
    rfl
  | complete status body =>
    by_cases success : status = 200
    · rw [success, toGrant_success] at failed
      split at failed
      · cases failed
      · cases failed
        rfl
    · rw [toGrant_rejected success] at failed
      cases failed
      rfl

theorem toUnit_rejected (other : status ≠ 200) :
    (complete status body).toUnit = .error (.authority status (text status body)) := by
  rw [toUnit, body_rejected other]
  rfl

theorem toUnit_eq_ok_iff : (complete status body).toUnit = .ok () ↔ status = 200 := by
  by_cases success : status = 200
  · subst success
    exact iff_of_true rfl rfl
  · rw [toUnit_rejected success]
    exact iff_of_false nofun success

/-- A text arrives as it was written. -/
theorem text_utf8 (bodied : status ∉ bodiless) (written : String) : text status (utf8 written) = written := by
  rw [text, if_neg bodied, utf8, Utf8.decodeLossy_encode, String.ofList_toList]

end Entitlement.HttpReply
