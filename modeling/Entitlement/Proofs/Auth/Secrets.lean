import Entitlement.Auth.KeyPair
import Entitlement.Proofs.Codec.Hex
import Entitlement.Proofs.Outcome
import Entitlement.Proofs.Text.Blank

/-!
Secrets are kept as text. The text that a key pair is kept as gives it back, and so does every other text that spells
its secret: 64 hexadecimal digits in letters of either case, with white space around them or without. No other text
gives a key pair (`secrets_persist`).
-/

namespace Entitlement

/-- Digits are no white space. -/
theorem Hex.isBlank_digit {c : Char} (digit : (digitValue? c).isSome) : Text.isBlank c = false := by
  have free : ("0123456789abcdef".toList.all fun d => !Text.isBlank d) = true := by decide
  have own : c.toLower ∈ "0123456789abcdef".toList := by
    by_contra foreign
    rw [digitValue?, List.idxOf?_eq_none_iff.mpr foreign] at digit
    cases digit
  rw [← Text.isBlank_toLower]
  simpa only [Bool.not_eq_true'] using List.all_eq_true.mp free _ own

namespace KeyPair

variable {scheme : SignatureScheme}

/-- The text is 64 hexadecimal digits, with any white space around them. -/
def IsSecret (text : String) : Prop :=
  ∃ digits, Text.Encloses text.toList digits ∧ digits.length = 64 ∧ ∀ c ∈ digits, (Hex.digitValue? c).isSome

theorem ofHex_trimmed {text : String} {k : KeyPair scheme} :
    ofHex text = .ok k ↔ Hex.Spells (Text.trim text.toList) k.secret := by
  have trimmed : (String.ofList (Text.trim text.toList)).toList = Text.trim text.toList := String.toList_ofList
  rw [← trimmed, ← Hex.decode_eq_ok_iff]
  constructor
  · intro read
    obtain ⟨secret, decoded, sized⟩ := ok_of_bind read
    unfold ofBytes at sized
    split at sized
    · cases sized
      exact ok_of_mapError decoded
    · cases sized
  · intro decoded
    rw [ofHex, decoded]
    exact dif_pos k.size

theorem ofHex_eq_ok_iff {text : String} {k : KeyPair scheme} :
    ofHex text = .ok k ↔ ∃ digits, Text.Encloses text.toList digits ∧ Hex.Spells digits k.secret := by
  rw [ofHex_trimmed]
  constructor
  · intro spells
    exact ⟨_, Text.encloses_trim _, spells⟩
  · rintro ⟨digits, encloses, spells⟩
    rw [(Text.encloses_iff fun c own => Hex.isBlank_digit (spells.digits own)).mp encloses]
    exact spells

theorem exists_ofHex_iff {text : String} : (∃ k : KeyPair scheme, ofHex text = .ok k) ↔ IsSecret text := by
  constructor
  · rintro ⟨k, read⟩
    obtain ⟨digits, encloses, spells⟩ := ofHex_eq_ok_iff.mp read
    refine ⟨digits, encloses, ?_, fun c own => spells.digits own⟩
    rw [spells.length, k.size, secretSize]
  · rintro ⟨digits, encloses, length, each⟩
    obtain ⟨secret, spells⟩ := Hex.exists_spells (n := secretSize) length each
    have size : secret.length = secretSize := by
      have twice : 2 * secret.length = 2 * secretSize := spells.length.symm.trans length
      omega
    exact ⟨⟨secret, size⟩, ofHex_eq_ok_iff.mpr ⟨digits, encloses, spells⟩⟩

theorem ofHex_secretHex (k : KeyPair scheme) : ofHex k.secretHex = .ok k := by
  have bare : Text.Encloses k.secretHex.toList k.secretHex.toList :=
    ⟨[], [], (List.append_nil _).symm, List.forall_mem_nil _, List.forall_mem_nil _⟩
  exact ofHex_eq_ok_iff.mpr ⟨_, bare, Hex.spells_encode k.secret⟩

/-- White space and the case of letters make no difference. -/
theorem ofHex_surrounded {text : String} {k : KeyPair scheme} (read : ofHex text = .ok k)
    {before after other : List Char} (blankBefore : ∀ c ∈ before, Text.isBlank c = true)
    (blankAfter : ∀ c ∈ after, Text.isBlank c = true)
    (same : other.map Char.toLower = text.toList.map Char.toLower) :
    ofHex (String.ofList (before ++ other ++ after)) = .ok k := by
  have digits : (Text.trim other).map Char.toLower = (Text.trim text.toList).map Char.toLower := by
    rw [← Text.trim_map_toLower, same, Text.trim_map_toLower]
  rw [ofHex_trimmed] at read ⊢
  rwa [String.toList_ofList, Text.trim_surrounded blankBefore blankAfter, ← Hex.spells_toLower, digits,
    Hex.spells_toLower]

/-- A key pair comes back from the text that it is kept as, and from whatever else spells its secret, in either case
and with white space around. -/
theorem secrets_persist :
    (∀ secret : Bytes, secret.length = 32 →
      ∃ k : KeyPair scheme, ofBytes secret = .ok k ∧ k.secret = secret ∧ ofHex k.secretHex = .ok k) ∧
    (∀ text : String,
      (∀ k : KeyPair scheme, ofHex text = .ok k ↔
        ∃ digits, Text.Encloses text.toList digits ∧ Hex.Spells digits k.secret) ∧
      ((∃ k : KeyPair scheme, ofHex text = .ok k) ↔ IsSecret text) ∧
      (¬ IsSecret text → ∃ e, (ofHex text : Except AuthError (KeyPair scheme)).mapError ClientError.ofAuth =
        .error (.auth e))) ∧
    ∀ (text : String) (k : KeyPair scheme), ofHex text = .ok k → ∀ before after other : List Char,
      (∀ c ∈ before, Text.isBlank c = true) → (∀ c ∈ after, Text.isBlank c = true) →
      other.map Char.toLower = text.toList.map Char.toLower →
      ofHex (String.ofList (before ++ other ++ after)) = .ok k := by
  refine ⟨?_, fun text => ⟨fun k => ofHex_eq_ok_iff, exists_ofHex_iff, fun none => ?_⟩, ?_⟩
  · intro secret size
    exact ⟨⟨secret, size⟩, dif_pos size, rfl, ofHex_secretHex _⟩
  · cases read : (ofHex text : Except AuthError (KeyPair scheme)) with
    | ok k => exact (none (exists_ofHex_iff.mp ⟨k, read⟩)).elim
    | error e => exact ⟨e.message, rfl⟩
  · intro text k read before after other blankBefore blankAfter same
    exact ofHex_surrounded read blankBefore blankAfter same

/-- Thirty-two bytes in digits of both cases. -/
def mixedDigits : String := String.ofList (List.replicate 16 ['0', 'a', 'B', '1']).flatten

def mixedKeys : KeyPair .ed25519 := ⟨(List.replicate 16 [0x0A, 0xB1]).flatten, rfl⟩

/-- In capitals and with white space around them the digits are the same secret. One digit short they are none. -/
theorem mixedDigits_persist :
    ofHex mixedKeys.secretHex = .ok mixedKeys ∧ ofHex mixedDigits = .ok mixedKeys ∧
    ofHex (String.ofList (['\t', '\u3000'] ++ mixedDigits.toList.map Char.toUpper ++ ['\n'])) = .ok mixedKeys ∧
    ∃ e, (ofHex (String.ofList mixedDigits.toList.tail) : Except AuthError (KeyPair .ed25519)).mapError
      ClientError.ofAuth = .error (.auth e) := by
  obtain ⟨back, exact, around⟩ := @secrets_persist .ed25519
  have bare : Text.Encloses mixedDigits.toList mixedDigits.toList :=
    ⟨[], [], (List.append_nil _).symm, List.forall_mem_nil _, List.forall_mem_nil _⟩
  have text : mixedDigits.toList = (List.replicate 16 ['0', 'a', 'B', '1']).flatten := String.toList_ofList
  have spells : Hex.Spells mixedDigits.toList mixedKeys.secret := by
    rw [text]
    decide
  have read : ofHex mixedDigits = .ok mixedKeys := ((exact _).1 mixedKeys).mpr ⟨_, bare, spells⟩
  refine ⟨?_, read, ?_, (exact _).2.2 ?_⟩
  · obtain ⟨k, made, _, back⟩ := back mixedKeys.secret mixedKeys.size
    cases made
    exact back
  · have same : (mixedDigits.toList.map Char.toUpper).map Char.toLower = mixedDigits.toList.map Char.toLower := by
      rw [text]
      decide
    exact around mixedDigits mixedKeys read _ _ _ (List.all_eq_true.mp rfl) (List.all_eq_true.mp rfl) same
  · rintro ⟨digits, encloses, length, each⟩
    have fewer := congrArg List.length ((Text.encloses_iff fun c own => Hex.isBlank_digit (each c own)).mp encloses)
    rw [length, String.toList_ofList, text] at fewer
    exact absurd fewer (by decide)

end KeyPair

end Entitlement
