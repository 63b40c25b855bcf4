import Entitlement.Proofs.Authority
import Entitlement.Proofs.Codec.Hex
import Entitlement.Proofs.Number.Decimal
import Entitlement.Text.Lowercase
import Mathlib

/-!
The text that is signed names one request (`canonicalText_identifies`): its first four lines hold no line feed of
their own, so the first four line feeds end them, and the nonce is whatever follows. Methods and paths that are
sent are on one line.
-/

namespace Entitlement

open HttpAuthority (exampleAuthority productUrl url_product)

/-- What stands before the first separator is told by the whole, and so is what stands behind it. -/
theorem append_separator_inj {a : Char} {l l' : List Char} (free : a ∉ l) (free' : a ∉ l') (r r' : List Char) :
    l ++ a :: r = l' ++ a :: r' ↔ l = l' ∧ r = r' := by
  refine ⟨fun same => ?_, fun ⟨front, back⟩ => by rw [front, back]⟩
  induction l generalizing l' with
  | nil =>
    cases l' with
    | nil => exact ⟨rfl, List.tail_eq_of_cons_eq same⟩
    | cons c l' =>
      cases same
      exact (free' List.mem_cons_self).elim
  | cons c l ih =>
    cases l' with
    | nil =>
      cases same
      exact (free List.mem_cons_self).elim
    | cons d l' =>
      obtain ⟨rfl, rest⟩ := List.cons.inj same
      obtain ⟨rfl, back⟩ :=
        ih (fun own => free (List.mem_cons_of_mem c own)) (fun own => free' (List.mem_cons_of_mem c own)) rest
      exact ⟨rfl, back⟩

theorem canonicalText_lines (method path : String) (body : Bytes) (timestamp : Int64) (nonce : String) :
    (canonicalText method path body timestamp nonce).toList =
      (upperMethod method).toList ++ '\n' :: (path.toList ++ '\n' :: ((bodyHash body).toList ++ '\n' ::
        ((Decimal.ofInt64 timestamp).toList ++ '\n' :: nonce.toList))) := by
  simp [canonicalText]

theorem toUpper_ne_newline {c : Char} (other : c ≠ '\n') : c.toUpper ≠ '\n' := by
  intro same
  have noLetter : c.isAlpha = false := by
    rw [← Char.isAlpha_toUpper_eq_isAlpha, same]
    rfl
  have noSmall : ¬c.isLower = true := Bool.eq_false_iff.mp (Bool.or_eq_false_iff.mp noLetter).2
  rw [Char.toUpper_eq_of_not_isLower noSmall] at same
  exact other same

theorem upperMethod_oneLine {method : String} (line : '\n' ∉ method.toList) : '\n' ∉ (upperMethod method).toList := by
  rw [upperMethod, String.toList_map]
  intro member
  obtain ⟨c, own, capital⟩ := List.mem_map.mp member
  exact toUpper_ne_newline (fun same => line (same ▸ own)) capital

/-- A method counts the same in small letters and in capitals. -/
theorem upperMethod_anyCase {method method' : String} (same : Text.asciiLower method = Text.asciiLower method') :
    upperMethod method = upperMethod method' := by
  have upper (method : String) : upperMethod method = upperMethod (Text.asciiLower method) := by
    apply String.toList_injective
    simp only [upperMethod, Text.asciiLower, String.toList_map, List.map_map]
    exact List.map_congr_left fun c _ => (Char.toUpper_toLower_eq_toUpper c).symm
  rw [upper method, upper method', same]

theorem canonicalText_anyCase {method method' : String} (same : Text.asciiLower method = Text.asciiLower method')
    (path : String) (body : Bytes) (timestamp : Int64) (nonce : String) :
    canonicalText method path body timestamp nonce = canonicalText method' path body timestamp nonce := by
  rw [canonicalText, canonicalText, upperMethod_anyCase same]

theorem bodyHash_oneLine (body : Bytes) : '\n' ∉ (bodyHash body).toList := by
  intro member
  obtain ⟨n, small, digit⟩ := Hex.mem_encode member
  exact Hex.digit_ne_lineFeed small digit.symm

theorem timestamp_oneLine (timestamp : Int64) : '\n' ∉ (Decimal.ofInt64 timestamp).toList := by
  intro member
  rcases Decimal.mem_ofInt64 member with minus | digit
  · exact absurd minus (by decide)
  · exact absurd digit (by decide)

theorem canonicalText_inj {method path method' path' : String} (methodLine : '\n' ∉ method.toList)
    (pathLine : '\n' ∉ path.toList) (methodLine' : '\n' ∉ method'.toList) (pathLine' : '\n' ∉ path'.toList)
    (body body' : Bytes) (timestamp timestamp' : Int64) (nonce nonce' : String) :
    canonicalText method path body timestamp nonce = canonicalText method' path' body' timestamp' nonce' ↔
      upperMethod method = upperMethod method' ∧ path = path' ∧ bodyHash body = bodyHash body' ∧
        timestamp = timestamp' ∧ nonce = nonce' := by
  rw [← String.toList_inj, canonicalText_lines, canonicalText_lines,
    append_separator_inj (upperMethod_oneLine methodLine) (upperMethod_oneLine methodLine'),
    append_separator_inj pathLine pathLine',
    append_separator_inj (bodyHash_oneLine body) (bodyHash_oneLine body'),
    append_separator_inj (timestamp_oneLine timestamp) (timestamp_oneLine timestamp')]
  simp only [String.toList_inj, Decimal.ofInt64_injective.eq_iff]

/-- Signed are the bytes of the text. -/
theorem canonicalText_identifies :
    (∀ {method path method' path' : String}, '\n' ∉ method.toList → '\n' ∉ path.toList →
      '\n' ∉ method'.toList → '\n' ∉ path'.toList →
      ∀ (body body' : Bytes) (timestamp timestamp' : Int64) (nonce nonce' : String),
        utf8 (canonicalText method path body timestamp nonce) =
            utf8 (canonicalText method' path' body' timestamp' nonce') ↔
          upperMethod method = upperMethod method' ∧ path = path' ∧ bodyHash body = bodyHash body' ∧
            timestamp = timestamp' ∧ nonce = nonce') ∧
      ∀ (h : HttpAuthority) (r : AuthorityRequest) (url : Url), h.url r = .ok url →
        '\n' ∉ (HttpAuthority.method r).toList ∧ '\n' ∉ url.pathText.toList := by
  constructor
  · intro method path method' path' methodLine pathLine methodLine' pathLine' body body' timestamp timestamp' nonce
      nonce'
    rw [utf8_injective.eq_iff]
    exact canonicalText_inj methodLine pathLine methodLine' pathLine' ..
  · intro h r url address
    exact ⟨HttpAuthority.method_oneLine r, HttpAuthority.url_oneLine address⟩

/-- A nonce that goes on behind a line feed is another one. -/
theorem longerNonce_identifies :
    utf8 (canonicalText "get" productUrl.pathText [] (-5) "n\n6") ≠
        utf8 (canonicalText "GET" productUrl.pathText [] (-5) "n") ∧
      exampleAuthority.url (.check .product) = .ok productUrl ∧ '\n' ∉ productUrl.pathText.toList := by
  have get : '\n' ∉ "get".toList := by decide
  obtain ⟨capitals, path⟩ := canonicalText_identifies.2 exampleAuthority (.check .product) productUrl url_product
  refine ⟨fun same => ?_, url_product, path⟩
  have nonces := ((canonicalText_identifies.1 get path capitals path ..).mp same).2.2.2.2
  exact absurd nonces (by decide)

end Entitlement
