import Entitlement.Url.Path

/-!
URLs, as the address of an authority is given and as requests are sent to it. A text is read into
its parts, each of them in its normal form, and written again from them. Some schemes are special:
they need a host, take a backslash for a slash, and know a port of their own.
-/

namespace Entitlement

open Url

/-- Who is asked: credentials, host and port. A port that the scheme implies is left out. -/
structure Url.Authority where
  username : List Char
  password : List Char
  host : Host
  port : Option Nat
  deriving DecidableEq, Repr, Inhabited

inductive Url.Path
  /-- A text without structure. -/
  | opaqueText (text : List Char)
  | segments (segs : Segments)
  deriving DecidableEq, Repr, Inhabited

structure Url where
  scheme : List Char
  authority : Option Url.Authority
  path : Url.Path
  query : Option (List Char)
  fragment : Option (List Char)
  deriving DecidableEq, Repr, Inhabited

namespace Url

/-! ### Schemes -/

def fileScheme : List Char := "file".toList

def implicitPort? (scheme : List Char) : Option Nat :=
  if scheme = "http".toList ∨ scheme = "ws".toList then some 80
  else if scheme = "https".toList ∨ scheme = "wss".toList then some 443
  else if scheme = "ftp".toList then some 21
  else none

def isSpecial (scheme : List Char) : Bool := scheme = fileScheme || (implicitPort? scheme).isSome

def isSchemeChar (c : Char) : Bool := c.isAlphanum || c = '+' || c = '-' || c = '.'

/-- The scheme, in small letters, and what stands behind its colon. -/
def splitScheme (cs : List Char) : Except ParseError (List Char × List Char) :=
  match cs.takeWhile isSchemeChar, cs.dropWhile isSchemeChar with
  | c :: scheme, ':' :: r =>
    if c.isAlpha then .ok ((c :: scheme).map Char.toLower, r) else .error .relative
  | _, _ => .error .relative

/-! ### Parts -/

/-- Blanks and controls around a URL are dropped, line breaks and tabs anywhere in it. -/
def clean (cs : List Char) : List Char :=
  let isEdge (c : Char) : Bool := c.toNat ≤ 0x20
  ((cs.dropWhile isEdge).reverse.dropWhile isEdge).reverse.filter (!Segments.isStripped ·)

/-- What stands before the first `c`, and what stands behind it, if it is there. -/
def cut (c : Char) (cs : List Char) : List Char × Option (List Char) :=
  match cs.dropWhile (· ≠ c) with
  | [] => (cs, none)
  | _ :: r => (cs.takeWhile (· ≠ c), some r)

def isSlash (special : Bool) (c : Char) : Bool := c = '/' || (special && c = '\\')

def endsAuthority (special : Bool) (c : Char) : Bool := isSlash special c || c = '?' || c = '#'

/-- What stands before the last `@`, if there is one, and behind it. -/
def splitUserInfo (cs : List Char) : Option (List Char) × List Char :=
  let host := (cs.reverse.takeWhile (· ≠ '@')).reverse
  if host.length = cs.length then (none, cs) else (some (cs.take (cs.length - host.length - 1)), host)

/-- The host ends at the first colon that is not in brackets. -/
def splitHost (inBrackets : Bool) : List Char → List Char × List Char
  | [] => ([], [])
  | c :: r =>
    if c = ':' ∧ !inBrackets then ([], c :: r)
    else
      let inBrackets := if c = '[' then true else if c = ']' then false else inBrackets
      let (host, rest) := splitHost inBrackets r
      (c :: host, rest)

/-- A port, given what stands behind the host. Without digits there is none. Behind it only a
backslash may follow, which then begins the path. -/
def readPort (cs : List Char) : Except ParseError (Option Nat × List Char) :=
  match cs with
  | ':' :: r =>
    let digits := r.takeWhile Decimal.isDigit
    let rest := r.dropWhile Decimal.isDigit
    let port := Decimal.ofDigits digits
    if 65535 < port ∨ (rest ≠ [] ∧ rest.head? ≠ some '\\') then .error .invalidPort
    else .ok (if digits.isEmpty then none else some port, rest)
  | r => .ok (none, r)

/-- Credentials, host and port; and what of the text belongs to the path. `more` tells whether
anything follows the text. -/
def readAuthority (scheme text : List Char) (more : Bool) :
    Except ParseError (Authority × List Char) := do
  let special := isSpecial scheme
  let (userInfo, hostAndPort) := splitUserInfo text
  if userInfo = some [] ∧ hostAndPort.isEmpty ∧ more then throw .emptyHost
  let (username, password) := cut ':' (userInfo.getD [])
  let username := escape .userInfo username
  let password := escape .userInfo (password.getD [])
  let (hostText, rest) := splitHost false hostAndPort
  if special ∧ hostText.isEmpty then throw .emptyHost
  let host ← if special then Host.parse hostText else Host.parseOpaque hostText
  if host.isEmpty ∧ rest.head? = some ':' then throw .emptyHost
  let (port, rest) ← readPort rest
  if host.isEmpty ∧ !(username.isEmpty && password.isEmpty) then throw .emptyHost
  return (⟨username, password, host, if port = implicitPort? scheme then none else port⟩, rest)

/-- Path, query and fragment. -/
def splitTail (cs : List Char) : List Char × Option (List Char) × Option (List Char) :=
  let (cs, fragment) := cut '#' cs
  let (path, query) := cut '?' cs
  (path, query, fragment)

/-- A drive letter at the front gets its colon if `normal`. -/
def readSegments (special normal : Bool) (cs : List Char) : Segments :=
  match cs with
  | [] => if special then [[]] else []
  | c :: r =>
    let cs := if isSlash special c then r else cs
    Segments.addAll normal [] (splitAt (isSlash special) (escape .path cs))

/-- A URL from its scheme, its authority, and everything else as text. -/
def withTail (scheme : List Char) (authority : Option Authority) (path : List Char → Path)
    (tail : List Char) : Url :=
  let (pathText, query, fragment) := splitTail tail
  let querySet : EscapeSet := if isSpecial scheme then .specialQuery else .query
  ⟨scheme, authority, path pathText, query.map (escape querySet), fragment.map (escape .fragment)⟩

def ofAuthority (scheme cs : List Char) : Except ParseError Url := do
  let special := isSpecial scheme
  let text := cs.takeWhile (!endsAuthority special ·)
  let tail := cs.dropWhile (!endsAuthority special ·)
  let (authority, rest) ← readAuthority scheme text !tail.isEmpty
  return withTail scheme (some authority) (fun p => .segments (readSegments special false p)) (rest ++ tail)

/-! ### Files -/

/-- The host of a file, and the text of the path. A drive letter is no host, and the name of this
machine counts as none. -/
def readFileHost (cs : List Char) : Except ParseError (Host × List Char) :=
  let text := cs.takeWhile (!endsAuthority true ·)
  let tail := cs.dropWhile (!endsAuthority true ·)
  if isDriveLetter text then .ok (.named [], cs)
  else if text.isEmpty then .ok (.named [], tail)
  else (Host.parse text).map fun h =>
    (if h = .named "localhost".toList then .named [] else h, tail)

/-- A path that begins with a drive letter belongs to no host. Only where it takes the place of one, its
bar becomes a colon. -/
def ofFile (cs : List Char) : Except ParseError Url := do
  let (host, tail) ← match cs with
    | a :: b :: r =>
      if isSlash true a ∧ isSlash true b then readFileHost r else .ok (.named [], cs)
    | cs => .ok (.named [], cs)
  let segs := readSegments true (host ≠ .named []) (splitTail tail).1
  let host := if (segs.head?.map isDriveLetter).getD false then .named [] else host
  let segs := Segments.dropLeadingEmpty segs
  return withTail fileScheme (some ⟨[], [], host, none⟩) (fun _ => .segments segs) tail

def parse (text : String) : Except ParseError Url := do
  let (scheme, rest) ← splitScheme (clean text.toList)
  if scheme = fileScheme then ofFile rest
  else if isSpecial scheme then ofAuthority scheme (rest.dropWhile (isSlash true))
  else match rest with
    | '/' :: '/' :: r => ofAuthority scheme r
    | '/' :: _ =>
      return withTail scheme none (fun p => .segments (readSegments false false p)) rest
    | _ => return withTail scheme none (fun p => .opaqueText (escape .controls p)) rest

/-! ### Writing -/

def Path.render : Path → List Char
  | opaqueText text => text
  | segments segs => segs.render

def Authority.render (a : Authority) : List Char :=
  let password := if a.password.isEmpty then [] else ':' :: a.password
  let userInfo := a.username ++ password
  (if userInfo.isEmpty then [] else userInfo ++ ['@']) ++ a.host.render ++
    (a.port.elim [] fun p => ':' :: Decimal.digitsOf p)

def pathText (u : Url) : String := String.ofList u.path.render

/-- Without an authority, a path must not look as if it began with one. -/
def render (u : Url) : String :=
  let path := u.path.render
  let authority := match u.authority with
    | some a => '/' :: '/' :: a.render
    | none => if path.take 2 = ['/', '/'] then ['/', '.'] else []
  String.ofList (u.scheme ++ ':' :: authority ++ path ++ (u.query.elim [] ('?' :: ·)) ++
    (u.fragment.elim [] ('#' :: ·)))

/-- Appends a text as one segment of the path, if the path has segments. -/
def push? (u : Url) (text : String) : Option Url :=
  match u.path with
  | .opaqueText _ => none
  | .segments segs =>
    some { u with path := .segments (segs.push (isSpecial u.scheme) (u.scheme = fileScheme) text.toList) }

end Url

end Entitlement
