import Entitlement.Proofs.CheckAddress
import Entitlement.Proofs.Url.Extensible

/-!
Where the requests of a client go (`endpoints_reached`). A configuration is valid if its address is, but requests go to the
address with a path behind it, which is read anew. They reach that path below the address if and only if the address is
extensible, and then keys can be checked too.
-/

namespace Entitlement

open Url

namespace HttpAuthority

/-- The paths that are put behind the address of an authority. -/
def apiPaths : List String := [featuresPath, usagePath, registerPath, heartbeatPath]

/-- An endpoint is the address `base` with a path behind its own, slashes at the end of that one apart. -/
def Reaches (h : HttpAuthority) (base : Url) (path : String) : Prop :=
  ∃ url, h.endpoint path = .ok url ∧ url.scheme = base.scheme ∧ url.authority = base.authority ∧
    url.pathText = trimSlashes base.pathText ++ path ∧ url.query = none ∧ url.fragment = none

/-- The address of an authority can be extended. -/
def IsExtensible (address : String) (base : Url) : Prop :=
  Extensible (trimSlashes address).toList (endSlashes address.toList) base

theorem endpoint_ok {h : HttpAuthority} {path : String} {url : Url} :
    h.endpoint path = .ok url ↔ Url.parse (h.baseUrl ++ path) = .ok url := by
  refine ⟨endpoint_parsed, fun parsed => ?_⟩
  rw [endpoint, parsed]

theorem reaches_iff {c : ClientConfig} {a : Authenticator} {base : Url} (parsed : Url.parse c.authorityUrl = .ok base)
    (web : IsWeb base.scheme) {path : String} {segs : Segments} (simple : Simple segs)
    (written : path = String.ofList segs.render) :
    Reaches (ofConfig c a) base path ↔ IsExtensible c.authorityUrl base := by
  have text : (ofConfig c a).baseUrl ++ path = String.ofList ((trimSlashes c.authorityUrl).toList ++ segs.render) := by
    rw [String.ofList_append, String.ofList_toList, written]
    rfl
  have below (url : Url) : url.pathText = trimSlashes base.pathText ++ path ↔
      url.path.render = base.path.render.rdropWhile (· = '/') ++ segs.render := by
    have trimmed : (trimSlashes base.pathText).toList = base.path.render.rdropWhile (· = '/') := by
      rw [trimSlashes, pathText, String.toList_ofList, String.toList_ofList]
      rfl
    rw [← String.toList_inj, String.toList_append, trimmed, pathText, String.toList_ofList, written, String.toList_ofList]
  rw [IsExtensible, ← reached_iff parsed web (trimSlashes_split _) simple]
  simp only [Reaches, Reached, endpoint_ok, text, below]

theorem apiPaths_simple {path : String} (own : path ∈ apiPaths) :
    ∃ segs : Segments, Simple segs ∧ path = String.ofList segs.render := by
  have last (name : String) (simple : ∀ c ∈ name.toList, isSimple c = true) :
      Simple (apiSegments ++ [name.toList]) := by
    refine ⟨List.append_ne_nil_of_right_ne_nil _ (List.cons_ne_nil _ _), fun s own => ?_⟩
    rcases List.mem_append.mp own with api | own
    · exact features_simple.simple s (List.mem_append_left _ api)
    · rw [List.mem_singleton.mp own]
      exact simple
  simp only [apiPaths, List.mem_cons, List.not_mem_nil, or_false] at own
  rcases own with rfl | rfl | rfl | rfl
  · exact ⟨_, last "features" (List.all_eq_true.mp (by decide)), by decide⟩
  · exact ⟨_, last "usage" (List.all_eq_true.mp (by decide)), by decide⟩
  · exact ⟨_, last "register" (List.all_eq_true.mp (by decide)), by decide⟩
  · exact ⟨_, last "heartbeat" (List.all_eq_true.mp (by decide)), by decide⟩

theorem address_valid {c : ClientConfig} (valid : c.validate = .ok ()) :
    ClientConfig.checkUrl c.authorityUrl = .ok () := by
  obtain ⟨_, _, valid⟩ := ok_of_bind valid
  obtain ⟨_, address, _⟩ := ok_of_bind valid
  exact address

/-- With the features reached, every key can be checked. -/
theorem checkUrl_of_endpoint {c : ClientConfig} {a : Authenticator}
    (address : ClientConfig.checkUrl c.authorityUrl = .ok ()) {base : Url} (fits : IsExtensible c.authorityUrl base)
    {endpoint : Url} (found : (ofConfig c a).endpoint featuresPath = .ok endpoint) (key : CheckKey) :
    ∃ url, (ofConfig c a).checkUrl key = .ok url := by
  have noMark {d : Char} (free : d ∉ (trimSlashes c.authorityUrl).toList) (slash : d ≠ '/') : d ∉ c.authorityUrl.toList := by
    rw [trimSlashes_split]
    intro own
    exact (List.mem_append.mp own).elim free fun own => slash (List.eq_of_mem_replicate own)
  obtain ⟨scheme, authority, front, web, more, rfl⟩ := endpoint_features address (noMark fits.noQuery (by decide))
    (noMark fits.noFragment (by decide)) found
  exact ⟨_, checkUrl_keyed found web more rfl key⟩

/-- The endpoints of a valid configuration lie below its address if and only if that is extensible. Hosts are those of
`Url.Host.parse`, in ASCII only. -/
theorem endpoints_reached (c : ClientConfig) (a : Authenticator) (valid : c.validate = .ok ()) :
    ∃ base, Url.parse c.authorityUrl = .ok base ∧
      (∀ path ∈ apiPaths, Reaches (ofConfig c a) base path ↔ IsExtensible c.authorityUrl base) ∧
      (IsExtensible c.authorityUrl base → ∀ key, ∃ url, (ofConfig c a).checkUrl key = .ok url) := by
  obtain ⟨base, parsed, web⟩ := address_parsed (address_valid valid)
  have reached : ∀ path ∈ apiPaths, Reaches (ofConfig c a) base path ↔ IsExtensible c.authorityUrl base := by
    intro path own
    obtain ⟨segs, simple, written⟩ := apiPaths_simple own
    exact reaches_iff parsed web simple written
  refine ⟨base, parsed, reached, fun fits key => ?_⟩
  obtain ⟨_, found, _⟩ := (reached featuresPath List.mem_cons_self).mpr fits
  exact checkUrl_of_endpoint (address_valid valid) fits found key

/-- The address of the example ends in a slash, which is not doubled. -/
theorem exampleConfig_reached : exampleConfig.validate = .ok () ∧
    (∃ base, Url.parse exampleConfig.authorityUrl = .ok base ∧
      ∀ path ∈ apiPaths, Reaches (ofConfig exampleConfig exampleKeys.authenticator) base path) ∧
    ∃ url, (ofConfig exampleConfig exampleKeys.authenticator).checkUrl .product = .ok url := by
  have valid : exampleConfig.validate = .ok () := by decide +kernel
  have known : Url.parse exampleConfig.authorityUrl = .ok (exampleUrl [[]]) := by decide +kernel
  have last : (cleanFront (trimSlashes exampleConfig.authorityUrl).toList).getLast? = some 'y' := by decide
  have fits : IsExtensible exampleConfig.authorityUrl (exampleUrl [[]]) :=
    ⟨by decide, by decide, by decide, fun _ own => Option.some.inj (last.symm.trans own) ▸ rfl, by decide⟩
  obtain ⟨base, parsed, reached, checked⟩ := endpoints_reached exampleConfig exampleKeys.authenticator valid
  cases known.symm.trans parsed
  exact ⟨valid, ⟨_, parsed, fun path own => (reached path own).mpr fits⟩, checked fits .product⟩

/-- A blank at the end is no part of the address. -/
def blankConfig : ClientConfig := { exampleConfig with authorityUrl := "http://authority.test " }

/-- The address has a query. -/
def queryConfig : ClientConfig := { exampleConfig with authorityUrl := "http://authority.test?q=1" }

/-- Both are valid, but with the one no request can be sent, and with the other paths end up in the query. -/
theorem validConfig_unreached :
    (blankConfig.validate = .ok () ∧
      (∀ path ∈ apiPaths, (ofConfig blankConfig exampleKeys.authenticator).endpoint path =
        .error (.config "invalid request URL: invalid international domain name")) ∧
      ∀ key, (ofConfig blankConfig exampleKeys.authenticator).checkUrl key =
        .error (.config "invalid request URL: invalid international domain name")) ∧
    queryConfig.validate = .ok () ∧
      ∃ url, (ofConfig queryConfig exampleKeys.authenticator).endpoint usagePath = .ok url ∧ url.pathText = "/" ∧
        url.query = some "q=1/api/v1/sdk/usage".toList := by
  have failed : ∀ path ∈ apiPaths, (ofConfig blankConfig exampleKeys.authenticator).endpoint path =
      .error (.config "invalid request URL: invalid international domain name") := by
    decide +kernel
  have answered : ((ofConfig queryConfig exampleKeys.authenticator).endpoint usagePath).toOption.map
      (fun url => (url.pathText, url.query)) = some ("/", some "q=1/api/v1/sdk/usage".toList) := by
    decide +kernel
  obtain ⟨url, found, parts⟩ := Option.map_eq_some_iff.mp answered
  refine ⟨⟨by decide +kernel, failed, fun key => ?_⟩, by decide +kernel, url, ok_of_toOption found,
    congrArg Prod.fst parts, congrArg Prod.snd parts⟩
  rw [checkUrl, failed featuresPath List.mem_cons_self]
  rfl

end HttpAuthority

end Entitlement
