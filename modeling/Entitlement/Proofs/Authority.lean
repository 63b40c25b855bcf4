import Entitlement.Authority
import Entitlement.Proofs.Url.Path

/-!
Addresses of requests. No path has a line feed in it (`url_oneLine`).
-/

namespace Entitlement

/-- Keys for examples. -/
def exampleKeys : KeyPair .ed25519 := ⟨List.replicate 32 7, rfl⟩

namespace HttpAuthority

/-- An authority for examples. -/
def exampleAuthority : HttpAuthority := ⟨"http://authority", exampleKeys.authenticator⟩

/-- Where the authority of the examples is asked for the product. -/
def productUrl : Url :=
  ⟨"http".toList, some ⟨[], [], .named "authority".toList, none⟩,
    .segments ["api".toList, "v1".toList, "sdk".toList, "features".toList, "__product__".toList, "check".toList],
    none, none⟩

theorem url_product : exampleAuthority.url (.check .product) = .ok productUrl := ok_of_toOption (by decide +kernel)

theorem endpoint_parsed {h : HttpAuthority} {path : String} {url : Url} (address : h.endpoint path = .ok url) :
    Url.parse (h.baseUrl ++ path) = .ok url := by
  unfold endpoint at address
  split at address
  · next parsed =>
    cases address
    exact parsed
  · cases address

theorem checkUrl_pushed {h : HttpAuthority} {key : CheckKey} {url : Url} (address : h.checkUrl key = .ok url) :
    ∃ endpoint keyed, h.endpoint featuresPath = .ok endpoint ∧ endpoint.push? key.text = some keyed ∧
      keyed.push? checkSuffix = some url := by
  obtain ⟨endpoint, found, address⟩ := ok_of_bind address
  cases pushed : (endpoint.push? key.text).bind fun url => url.push? checkSuffix with
  | none =>
    rw [pushed] at address
    cases address
  | some url' =>
    rw [pushed] at address
    cases address
    obtain ⟨keyed, first, second⟩ := Option.bind_eq_some_iff.mp pushed
    exact ⟨endpoint, keyed, found, first, second⟩

theorem url_oneLine {h : HttpAuthority} {r : AuthorityRequest} {url : Url} (address : h.url r = .ok url) :
    '\n' ∉ url.pathText.toList := by
  have endpoint {path : String} {url : Url} (address : h.endpoint path = .ok url) : url.path.OneLine :=
    (Url.parse_ok (endpoint_parsed address)).2
  apply Url.Path.OneLine.pathText
  cases r with
  | check key =>
    obtain ⟨_, _, found, first, second⟩ := checkUrl_pushed address
    exact Url.push?_oneLine (Url.push?_oneLine (endpoint found) first) second
  | usage report => exact endpoint address
  | register registration => exact endpoint address
  | heartbeat heartbeat => exact endpoint address

theorem method_oneLine (r : AuthorityRequest) : '\n' ∉ (method r).toList := by
  have get : '\n' ∉ "GET".toList := by decide
  have post : '\n' ∉ "POST".toList := by decide
  cases r with
  | check key => exact get
  | usage report => exact post
  | register registration => exact post
  | heartbeat heartbeat => exact post

end HttpAuthority

end Entitlement
