import Entitlement.Proofs.CheckAddress

/-!
The segment that a key becomes (`checkUrl_segment`): an exact escape of its UTF-8 bytes, whatever the key holds, marks
of its own and escapes included.
-/

namespace Entitlement

open Url

/-- What a set leaves as it is that escapes all controls is ASCII, and so are escapes. -/
theorem Url.escape_ascii {s : EscapeSet} (controls : ∀ d, EscapeSet.controls.has d = true → s.has d = true)
    {cs : List Char} {d : Char} (member : d ∈ escape s cs) : d.toNat < 0x80 := by
  rcases mem_escape member with ⟨_, left⟩ | rfl | digit
  · have free : EscapeSet.controls.has d = false := by
      refine Bool.eq_false_iff.mpr fun control => ?_
      cases left.symm.trans (controls d control)
    simp only [EscapeSet.controls, Bool.or_eq_false_iff, decide_eq_false_iff_not] at free
    omega
  · decide
  · exact isSimple_ascii (by rw [isSimple, digit, Bool.true_or])

theorem Url.specialSegment_controls {d : Char} (control : EscapeSet.controls.has d = true) :
    EscapeSet.specialSegment.has d = true := by
  simp only [EscapeSet.specialSegment, EscapeSet.segment, EscapeSet.path, EscapeSet.fragment, EscapeSet.also, control,
    Bool.true_or]

namespace HttpAuthority

/-- A key is checked behind the address of the features, as one segment that is an exact escape of it. Hosts are those
of `Url.Host.parse`, in ASCII only. -/
theorem checkUrl_segment {c : ClientConfig} {a : Authenticator}
    (address : ClientConfig.checkUrl c.authorityUrl = .ok ()) (noQuery : '?' ∉ c.authorityUrl.toList)
    (noFragment : '#' ∉ c.authorityUrl.toList) {endpoint : Url}
    (found : (ofConfig c a).endpoint featuresPath = .ok endpoint) {key : CheckKey} (plain : IsPlain key.text.toList) :
    ∃ url segment, (ofConfig c a).checkUrl key = .ok url ∧
      url.pathText = endpoint.pathText ++ "/" ++ String.ofList segment ++ "/check" ∧
      (∀ d ∈ segment, d.toNat < 0x80) ∧ (∀ d ∈ ['/', '?', '#', '\\'], d ∉ segment) ∧ WellEscaped segment ∧
      unescape segment = utf8 key.text ∧ url.query = none ∧ url.fragment = none := by
  obtain ⟨scheme, authority, front, web, more, rfl⟩ := endpoint_features address noQuery noFragment found
  refine ⟨_, escape .specialSegment key.text.toList, checkUrl_keyed found web more rfl key, ?_, ?_, ?_, ?_, ?_, rfl, rfl⟩
  · rw [place_plain plain]
    exact pathText_keyed rfl _
  · intro d member
    exact escape_ascii (fun _ => specialSegment_controls) member
  · intro d mark
    have all : ['/', '?', '#', '\\'].all (fun d => EscapeSet.specialSegment.has d && d ≠ '%' && !d.isAlphanum) = true := by
      decide
    have sound := List.all_eq_true.mp all d mark
    simp only [Bool.and_eq_true, decide_eq_true_eq, Bool.not_eq_true'] at sound
    exact notMem_escape sound.1.1 sound.1.2 sound.2 _
  · exact wellEscaped_escape (by decide) _
  · exact unescape_escape (by decide) _

/-- A key with every mark in it, an escape and a letter that is not ASCII. -/
def markedKey : CheckKey := .feature "a/b\\c?d#e%2F%é"

theorem markedKey_segment :
    ClientConfig.checkUrl exampleConfig.authorityUrl = .ok () ∧ '?' ∉ exampleConfig.authorityUrl.toList ∧
      '#' ∉ exampleConfig.authorityUrl.toList ∧ IsPlain markedKey.text.toList ∧
      ∃ url segment, (ofConfig exampleConfig exampleKeys.authenticator).checkUrl markedKey = .ok url ∧
        url.pathText = "/api/v1/sdk/features/a%2Fb%5Cc%3Fd%23e%252F%25%C3%A9/check" ∧
        url.pathText = "/api/v1/sdk/features" ++ "/" ++ String.ofList segment ++ "/check" ∧
        WellEscaped segment ∧ unescape segment = utf8 "a/b\\c?d#e%2F%é" := by
  have plain : IsPlain markedKey.text.toList := ⟨by decide, by decide, by decide⟩
  obtain ⟨url, segment, known, path, _, _, escaped, reads, _⟩ :=
    checkUrl_segment exampleConfig_address (by decide) (by decide) endpoint_exampleConfig plain
  refine ⟨exampleConfig_address, by decide, by decide, plain, url, segment, known, ?_, path, escaped, reads⟩
  have text : ((ofConfig exampleConfig exampleKeys.authenticator).checkUrl markedKey).toOption.map Url.pathText =
      some "/api/v1/sdk/features/a%2Fb%5Cc%3Fd%23e%252F%25%C3%A9/check" := by decide +kernel
  rw [known] at text
  exact Option.some.inj text

end HttpAuthority

end Entitlement
