import Entitlement.Auth.Authenticator
import Entitlement.CheckKey
import Entitlement.Config
import Entitlement.Message
import Entitlement.Url

/-!
The authority as clients see it: four requests, each of which becomes one signed message over HTTP,
and what its reply means. Nothing is tried twice.
-/

namespace Entitlement

/-- What a client asks of the authority. -/
inductive AuthorityRequest
  | check (key : CheckKey)
  | usage (report : UsageReport)
  | register (registration : Registration)
  | heartbeat (heartbeat : Heartbeat)
  deriving DecidableEq, Repr, Inhabited

/-- A request as it is sent. -/
structure HttpRequest where
  method : String
  url : Url
  headers : List (String × String)
  body : Bytes

namespace HttpRequest

/-- Path and query. -/
def target (r : HttpRequest) : String :=
  r.url.pathText ++ r.url.query.elim "" fun q => "?" ++ String.ofList q

end HttpRequest

/-- What comes back. -/
inductive HttpReply
  | complete (status : Nat) (body : Bytes)
  | timedOut
  /-- There is no connection, or none any more. -/
  | broken (reason : String)
  deriving DecidableEq, Repr

namespace HttpReply

def success : Nat := 200

/-- Replies of these statuses end with their head: another protocol, no content, not modified. -/
def bodiless : List Nat := [101, 204, 304]

/-- A body as text, as much of it as arrives. -/
def text (status : Nat) (body : Bytes) : String :=
  if status ∈ bodiless then "" else String.ofList (Utf8.decodeLossy body)

/-- The body of a reply, if it is a success. -/
def body : HttpReply → Except ClientError Bytes
  | complete status body =>
    if status = success then .ok body else .error (.authority status (text status body))
  | timedOut => .error .timeout
  | broken reason => .error (.network reason)

/-- The reply to a check. -/
def toGrant (r : HttpReply) : Except ClientError Grant := do
  match CheckReply.ofJson (← r.body) with
  | .ok reply => return reply.toGrant
  | .error _ => throw (.invalidResponse "error decoding response body")

/-- The reply to anything else; a success may say what it likes. -/
def toUnit (r : HttpReply) : Except ClientError Unit := r.body.map fun _ => ()

end HttpReply

/-- An authority at an address. -/
structure HttpAuthority where
  baseUrl : String
  authenticator : Authenticator

namespace HttpAuthority

def featuresPath : String := "/api/v1/sdk/features"
def checkSuffix : String := "check"
def usagePath : String := "/api/v1/sdk/usage"
def registerPath : String := "/api/v1/sdk/register"
def heartbeatPath : String := "/api/v1/sdk/heartbeat"

/-- Slashes at the end of an address do not matter. -/
def trimSlashes (url : String) : String :=
  String.ofList (url.toList.reverse.dropWhile (· = '/')).reverse

def ofConfig (c : ClientConfig) (a : Authenticator) : HttpAuthority := ⟨trimSlashes c.authorityUrl, a⟩

def shown (h : HttpAuthority) : String :=
  Text.shown "HttpAuthority"
    [("base_url", Text.quoted h.baseUrl), ("identity", Text.quoted h.authenticator.identity)]

/-- The path is put behind the address as text. -/
def endpoint (h : HttpAuthority) (path : String) : Except ClientError Url :=
  match Url.parse (h.baseUrl ++ path) with
  | .ok url => .ok url
  | .error e => .error (.config ("invalid request URL: " ++ e.message))

/-- Where a key is checked: the key is one segment of the path. -/
def checkUrl (h : HttpAuthority) (key : CheckKey) : Except ClientError Url :=
  (h.endpoint featuresPath).bind fun url =>
    match (url.push? key.text).bind fun url => url.push? checkSuffix with
    | some url => .ok url
    | none => .error (.config "authority_url cannot be a base URL")

def method : AuthorityRequest → String
  | .check _ => "GET"
  | _ => "POST"

def url (h : HttpAuthority) : AuthorityRequest → Except ClientError Url
  | .check key => h.checkUrl key
  | .usage _ => h.endpoint usagePath
  | .register _ => h.endpoint registerPath
  | .heartbeat _ => h.endpoint heartbeatPath

def body : AuthorityRequest → Bytes
  | .check _ => []
  | .usage report => utf8 report.toJson
  | .register registration => utf8 registration.toJson
  | .heartbeat heartbeat => utf8 heartbeat.toJson

/-- The message for a request. Signed are its method, the path of its address and its body. -/
def message (h : HttpAuthority) (moment : SigningMoment) (r : AuthorityRequest) :
    Except ClientError HttpRequest := do
  let url ← h.url r
  let signed ← (h.authenticator.authenticate moment (method r) url.pathText (body r)).mapError
    ClientError.ofAuth
  return ⟨method r, url, ("content-type", "application/json") :: signed.headers, body r⟩

end HttpAuthority

end Entitlement
