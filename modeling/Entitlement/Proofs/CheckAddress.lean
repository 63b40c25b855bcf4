import Entitlement.Proofs.Authority
import Entitlement.Proofs.Url.Extension
import Entitlement.Proofs.Url.Place

/-!
Where keys are checked (`checkUrl_places`): the address of a check differs from the address of the features only by
the place that the key has in the path, so two keys share an address if and only if they share a place.
-/

namespace Entitlement

open Url

namespace HttpAuthority

variable {c : ClientConfig} {a : Authenticator}

/-! ### Endpoints -/

theorem trimSlashes_split (text : String) :
    text.toList = (trimSlashes text).toList ++ List.replicate (endSlashes text.toList) '/' := by
  have slashes : text.toList.rtakeWhile (· = '/') = List.replicate (endSlashes text.toList) '/' :=
    List.eq_replicate_of_mem fun c own => of_decide_eq_true (List.mem_rtakeWhile_imp (p := (· = '/')) own)
  rw [trimSlashes, String.toList_ofList, ← slashes]
  exact (List.rdropWhile_append_rtakeWhile ..).symm

theorem mem_trimSlashes {text : String} {d : Char} (own : d ∈ (trimSlashes text).toList) : d ∈ text.toList := by
  rw [trimSlashes_split text]
  exact List.mem_append_left _ own

theorem address_parsed (address : ClientConfig.checkUrl c.authorityUrl = .ok ()) :
    ∃ base, Url.parse c.authorityUrl = .ok base ∧ IsWeb base.scheme := by
  unfold ClientConfig.checkUrl at address
  split at address
  · cases address
  · next base parsed =>
    split at address
    · next web => exact ⟨base, parsed, web⟩
    · cases address

/-- An endpoint ends with its own segments. -/
theorem endpoint_extended (address : ClientConfig.checkUrl c.authorityUrl = .ok ())
    (noQuery : '?' ∉ c.authorityUrl.toList) (noFragment : '#' ∉ c.authorityUrl.toList) {path : String}
    {segs : Segments} (simple : Simple segs) (written : path = String.ofList segs.render) {endpoint : Url}
    (found : (ofConfig c a).endpoint path = .ok endpoint) :
    ∃ scheme authority before, IsWeb scheme ∧
      endpoint = ⟨scheme, some authority, .segments (before ++ segs), none, none⟩ := by
  obtain ⟨base, parsed, web⟩ := address_parsed address
  have text : (ofConfig c a).baseUrl ++ path = String.ofList ((trimSlashes c.authorityUrl).toList ++ segs.render) := by
    rw [String.ofList_append, String.ofList_toList, written]
    rfl
  have extended := endpoint_parsed found
  rw [text] at extended
  obtain ⟨authority, before, same⟩ := parse_extended parsed web (trimSlashes_split _)
    (fun own => noQuery (mem_trimSlashes own)) (fun own => noFragment (mem_trimSlashes own)) simple extended
  exact ⟨base.scheme, authority, before, web, same⟩

/-! ### Keys -/

theorem push?_place (url : Url) {segs : Segments} (web : IsWeb url.scheme) (listed : url.path = .segments segs)
    (more : segs ≠ [[]]) (text : String) :
    url.push? text = some { url with path := .segments (segs.put (place text.toList)) } := by
  rw [push?, listed, web.special, decide_eq_false web.ne_file]
  simp only [Segments.push_place more]

/-- The last segment of the features, and those before it. -/
def featuresSegment : List Char := "features".toList

def apiSegments : Segments := ["api".toList, "v1".toList, "sdk".toList]

theorem features_simple : Simple (apiSegments ++ [featuresSegment]) := by
  have all : (apiSegments ++ [featuresSegment]).all (·.all isSimple) = true := by decide
  exact ⟨by decide, fun s own => List.all_eq_true.mp (List.all_eq_true.mp all s own)⟩

theorem features_written : featuresPath = String.ofList (Segments.render (apiSegments ++ [featuresSegment])) := by
  decide

theorem endpoint_features (address : ClientConfig.checkUrl c.authorityUrl = .ok ())
    (noQuery : '?' ∉ c.authorityUrl.toList) (noFragment : '#' ∉ c.authorityUrl.toList) {endpoint : Url}
    (found : (ofConfig c a).endpoint featuresPath = .ok endpoint) :
    ∃ scheme authority front, IsWeb scheme ∧ front ≠ [] ∧
      endpoint = ⟨scheme, some authority, .segments (front ++ [featuresSegment]), none, none⟩ := by
  obtain ⟨scheme, authority, before, web, same⟩ :=
    endpoint_extended address noQuery noFragment features_simple features_written found
  rw [← List.append_assoc] at same
  exact ⟨scheme, authority, _, web, List.append_ne_nil_of_right_ne_nil before (by decide), same⟩

/-- The address with a key at its place and the suffix behind it. -/
def keyed (url : Url) (segs : Segments) (p : Place) : Url :=
  { url with path := .segments (segs.put p ++ [checkSuffix.toList]) }

theorem put_suffix (segs : Segments) : segs.put (place checkSuffix.toList) = segs ++ [checkSuffix.toList] := by
  have suffix : place checkSuffix.toList = .inside checkSuffix.toList := by decide
  have plain : escape .specialSegment checkSuffix.toList = checkSuffix.toList := by decide
  rw [suffix, Segments.put, plain]

theorem features_noDrive : isDriveLetter featuresSegment = false := by decide

theorem checkUrl_keyed {h : HttpAuthority} {endpoint : Url} {front : Segments}
    (found : h.endpoint featuresPath = .ok endpoint) (web : IsWeb endpoint.scheme) (more : front ≠ [])
    (listed : endpoint.path = .segments (front ++ [featuresSegment])) (key : CheckKey) :
    h.checkUrl key = .ok (keyed endpoint (front ++ [featuresSegment]) (place key.text.toList)) := by
  have notAlone (p : Place) : (front ++ [featuresSegment]).put p ≠ [[]] := Segments.put_ne more features_noDrive p
  have first := push?_place endpoint web listed (notAlone .skipped) key.text
  have second := push?_place
    { endpoint with path := .segments ((front ++ [featuresSegment]).put (place key.text.toList)) } web rfl
    (notAlone _) checkSuffix
  unfold checkUrl
  rw [found]
  simp only [Except.bind, first, Option.bind_some, second, put_suffix, keyed]

/-- Addresses that differ only in their paths are written alike if and only if their paths are. -/
theorem render_inj {url : Url} (authority : url.authority.isSome = true) (p q : Path) :
    ({ url with path := p } : Url).render = ({ url with path := q } : Url).render ↔ p.render = q.render := by
  obtain ⟨a, known⟩ := Option.isSome_iff_exists.mp authority
  simp only [Url.render, known, String.ofList_inj, List.append_cancel_right_eq, List.append_cancel_left_eq]

theorem render_keyed {url : Url} {front : Segments} (authority : url.authority.isSome = true) (p q : Place) :
    (keyed url (front ++ [featuresSegment]) p).render = (keyed url (front ++ [featuresSegment]) q).render ↔ p = q := by
  rw [keyed, keyed, render_inj authority]
  simp only [Path.render, Segments.render_append, Segments.render_put features_noDrive, List.append_cancel_left_eq,
    List.append_cancel_right_eq, List.append_assoc]
  exact Segments.leaves_inj (by decide)

/-- A text that comes to stand inside is one segment. -/
theorem pathText_keyed {url : Url} {segs : Segments} (listed : url.path = .segments segs) (text : List Char) :
    (keyed url segs (.inside text)).pathText =
      url.pathText ++ "/" ++ String.ofList (escape .specialSegment text) ++ "/check" := by
  apply String.toList_injective
  have one (s : List Char) : Segments.render [s] = '/' :: s := List.append_nil _
  simp only [Url.pathText, keyed, listed, Path.render, Segments.put, Segments.render_append, one, String.toList_append,
    String.toList_ofList, List.append_assoc]
  rfl

/-- A key that is no mere dots and holds no tabs and line breaks is one segment, from which it can be read back. -/
theorem keyed_plain {url : Url} {segs : Segments} (listed : url.path = .segments segs) {key : CheckKey}
    (plain : IsPlain key.text.toList) :
    ∃ segment, '/' ∉ segment ∧ unescape segment = utf8 key.text ∧
      (keyed url segs (place key.text.toList)).pathText = url.pathText ++ "/" ++ String.ofList segment ++ "/check" := by
  refine ⟨escape .specialSegment key.text.toList, notMem_escape (by decide) (by decide) (by decide) _,
    unescape_escape (by decide) _, ?_⟩
  rw [place_plain plain]
  exact pathText_keyed listed _

theorem place_injective {key key' : CheckKey} (plain : IsPlain key.text.toList) (plain' : IsPlain key'.text.toList) :
    place key.text.toList = place key'.text.toList ↔ key = key' := by
  rw [place_plain plain, place_plain plain', Place.inside.injEq, String.toList_inj]
  exact ⟨fun same => by cases key; cases key'; cases same; rfl, fun same => by rw [same]⟩

/-- No key has an address, or each has one, and two keys share it if and only if they share a place. Hosts are those
of `Url.Host.parse`, in ASCII only. -/
theorem checkUrl_places (c : ClientConfig) (a : Authenticator) (address : ClientConfig.checkUrl c.authorityUrl = .ok ())
    (noQuery : '?' ∉ c.authorityUrl.toList) (noFragment : '#' ∉ c.authorityUrl.toList) :
    (∃ e, (ofConfig c a).endpoint featuresPath = .error e ∧ ∀ key, (ofConfig c a).checkUrl key = .error e) ∨
      ∃ endpoint, (ofConfig c a).endpoint featuresPath = .ok endpoint ∧
        ∃ url : CheckKey → Url, (∀ key, (ofConfig c a).checkUrl key = .ok (url key)) ∧
          (∀ key, { url key with path := endpoint.path } = endpoint) ∧
          (∀ key key', (url key).render = (url key').render ↔ place key.text.toList = place key'.text.toList) ∧
          (∀ key, IsPlain key.text.toList → ∃ segment, '/' ∉ segment ∧ unescape segment = utf8 key.text ∧
            (url key).pathText = endpoint.pathText ++ "/" ++ String.ofList segment ++ "/check") ∧
          ∀ key key', IsPlain key.text.toList → IsPlain key'.text.toList →
            ((url key).render = (url key').render ↔ key = key') := by
  cases found : (ofConfig c a).endpoint featuresPath with
  | error e =>
    refine Or.inl ⟨e, rfl, fun key => ?_⟩
    unfold checkUrl
    rw [found]
    rfl
  | ok endpoint =>
    obtain ⟨scheme, authority, front, web, more, rfl⟩ := endpoint_features address noQuery noFragment found
    refine Or.inr ⟨_, rfl, _, fun key => checkUrl_keyed found web more rfl key, fun key => rfl,
      fun key key' => render_keyed rfl _ _, fun key plain => keyed_plain rfl plain, fun key key' plain plain' => ?_⟩
    rw [render_keyed rfl, place_injective plain plain']

/-- A configuration for examples. -/
def exampleConfig : ClientConfig :=
  { authorityUrl := "http://authority/", productId := "analytics-suite", productVersion := "1.0.0" }

/-- The address with a path of the authority of that configuration. -/
def exampleUrl (segs : Segments) : Url :=
  ⟨"http".toList, some ⟨[], [], .named "authority".toList, none⟩, .segments segs, none, none⟩

theorem exampleConfig_address : ClientConfig.checkUrl exampleConfig.authorityUrl = .ok () :=
  ok_of_toOption (by decide +kernel)

theorem endpoint_exampleConfig :
    (ofConfig exampleConfig exampleKeys.authenticator).endpoint featuresPath =
      .ok (exampleUrl (apiSegments ++ [featuresSegment])) :=
  ok_of_toOption (by decide +kernel)

/-- A slash does not end the segment of a key, and an escape of one is not taken for it. -/
theorem slashedKey_place :
    ∃ url url' segment, (ofConfig exampleConfig exampleKeys.authenticator).checkUrl (.feature "a/b") = .ok url ∧
      (ofConfig exampleConfig exampleKeys.authenticator).checkUrl (.feature "a%2Fb") = .ok url' ∧
      url.render ≠ url'.render ∧ '/' ∉ segment ∧ unescape segment = utf8 "a/b" ∧
      url.pathText = "/api/v1/sdk/features" ++ "/" ++ String.ofList segment ++ "/check" := by
  rcases checkUrl_places exampleConfig exampleKeys.authenticator exampleConfig_address (by decide) (by decide) with
    ⟨e, failed, _⟩ | ⟨endpoint, found, url, known, _, _, inside, apart⟩
  · rw [endpoint_exampleConfig] at failed
    cases failed
  · have slashed : IsPlain (CheckKey.feature "a/b").text.toList := ⟨by decide, by decide, by decide⟩
    have escaped : IsPlain (CheckKey.feature "a%2Fb").text.toList := ⟨by decide, by decide, by decide⟩
    rw [endpoint_exampleConfig] at found
    cases found
    obtain ⟨segment, free, reads, path⟩ := inside _ slashed
    refine ⟨_, _, segment, known _, known _, fun same => ?_, free, reads, path⟩
    exact absurd ((apart _ _ slashed escaped).mp same) (by decide)

/-- Keys that differ in a tab only, and the two keys of dots, have the same address. -/
theorem tabbedKey_collides :
    ClientConfig.checkUrl exampleConfig.authorityUrl = .ok () ∧ '?' ∉ exampleConfig.authorityUrl.toList ∧
      '#' ∉ exampleConfig.authorityUrl.toList ∧
      CheckKey.feature "a\tb" ≠ .feature "ab" ∧ CheckKey.feature "." ≠ .feature ".." ∧
      ∃ url url', (ofConfig exampleConfig exampleKeys.authenticator).checkUrl (.feature "a\tb") = .ok url ∧
        (ofConfig exampleConfig exampleKeys.authenticator).checkUrl (.feature "ab") = .ok url ∧
        (ofConfig exampleConfig exampleKeys.authenticator).checkUrl (.feature ".") = .ok url' ∧
        (ofConfig exampleConfig exampleKeys.authenticator).checkUrl (.feature "..") = .ok url' := by
  have check (key : CheckKey) :
      (ofConfig exampleConfig exampleKeys.authenticator).checkUrl key =
        .ok (keyed (exampleUrl (apiSegments ++ [featuresSegment])) (apiSegments ++ [featuresSegment])
          (place key.text.toList)) :=
    checkUrl_keyed endpoint_exampleConfig (Or.inl rfl) (by decide) rfl key
  have tabbed : place "a\tb".toList = place "ab".toList := by decide
  have dots : place ".".toList = place "..".toList := by decide
  refine ⟨exampleConfig_address, by decide, by decide, by decide, by decide, _, _, check _, ?_, check _, ?_⟩
  · exact (check _).trans (by rw [CheckKey.feature, CheckKey.feature, tabbed])
  · exact (check _).trans (by rw [CheckKey.feature, CheckKey.feature, dots])

end HttpAuthority

end Entitlement
