import Entitlement.Number.Decimal
import Entitlement.Url.Escape

/-!
Hosts of URLs. In the special schemes a host is a domain in ASCII, or an address: whatever ends in a
number must be a whole address of four bytes. Elsewhere a host is any text that does not disturb the
URL. In brackets stands an address of sixteen bytes.
-/

namespace Entitlement.Url

/-- Why a text is no URL. -/
inductive ParseError
  | relative
  | emptyHost
  | invalidPort
  | invalidIpv4
  | invalidIpv6
  | invalidDomain
  | invalidHostCharacter
  deriving DecidableEq, Repr

def ParseError.message : ParseError → String
  | relative => "relative URL without a base"
  | emptyHost => "empty host"
  | invalidPort => "invalid port number"
  | invalidIpv4 => "invalid IPv4 address"
  | invalidIpv6 => "invalid IPv6 address"
  | invalidDomain => "invalid international domain name"
  | invalidHostCharacter => "invalid domain character"

inductive Host
  | named (name : List Char)
  /-- The address as one number of 32 bits. -/
  | ipv4 (address : Nat)
  /-- The address as eight numbers of 16 bits. -/
  | ipv6 (pieces : List Nat)
  deriving DecidableEq, Repr, Inhabited

/-- The parts between the separators that satisfy `p`; at least one. -/
def splitAt (p : Char → Bool) : List Char → List (List Char)
  | [] => [[]]
  | c :: r =>
    if p c then [] :: splitAt p r
    else match splitAt p r with
      | part :: parts => (c :: part) :: parts
      | [] => [[c]]

/-! ### Addresses of four bytes -/

/-- A part of an address: decimal, or octal behind a zero, or hexadecimal behind a mark. -/
def ipv4Number? : List Char → Option Nat
  | [] => none
  | '0' :: x :: ds =>
    if x = 'x' ∨ x = 'X' then Digit.number? 16 ds else Digit.number? 8 (x :: ds)
  | ds => Digit.number? 10 ds

/-- A last empty part does not count. -/
def ipv4Parts (name : List Char) : List (List Char) :=
  let parts := splitAt (· = '.') name
  if parts.getLast? = some [] then parts.dropLast else parts

def endsInNumber (name : List Char) : Bool :=
  match (ipv4Parts name).getLast? with
  | none | some [] => false
  | some last => last.all Decimal.isDigit || (ipv4Number? last).isSome

/-- Every part but the last is one byte; the last fills what remains. -/
def ipv4OfNumbers? (ns : List Nat) : Option Nat :=
  match ns.getLast? with
  | none => none
  | some last =>
    let front := ns.dropLast
    if 3 < front.length ∨ front.any (255 < ·) ∨ Nat.pow 256 (4 - front.length) ≤ last then none
    else some (front.foldl (fun n b => 256 * n + b) 0 * Nat.pow 256 (4 - front.length) + last)

def parseIpv4 (name : List Char) : Except ParseError Host :=
  match ((ipv4Parts name).mapM ipv4Number?).bind ipv4OfNumbers? with
  | some address => .ok (.ipv4 address)
  | none => .error .invalidIpv4

/-! ### Addresses of sixteen bytes -/

/-- Up to four hexadecimal digits. -/
def piece? (cs : List Char) : Option Nat := if cs.isEmpty ∨ 4 < cs.length then none else Digit.number? 16 cs

/-- One byte in decimal digits, without a needless zero in front. -/
def byte? (cs : List Char) : Option Nat :=
  if cs.isEmpty ∨ (cs.head? = some '0' ∧ 1 < cs.length) then none
  else (Digit.number? 10 cs).filter (· ≤ 255)

/-- Four bytes between points, as two pieces. -/
def dottedPieces? (cs : List Char) : Option (List Nat) :=
  match (splitAt (· = '.') cs).map byte? with
  | [some a, some b, some c, some d] => some [256 * a + b, 256 * c + d]
  | _ => none

/-- Pieces between colons. The last two may be written as four bytes, if `dotted`. -/
def pieces? (dotted : Bool) : List (List Char) → Option (List Nat)
  | [] => some []
  | [last] =>
    if dotted ∧ last.contains '.' then dottedPieces? last else (piece? last).map fun n => [n]
  | p :: ps => (piece? p).bind fun n => (pieces? dotted ps).map (n :: ·)

def piecesOfText? (dotted : Bool) (cs : List Char) : Option (List Nat) :=
  if cs.isEmpty then some [] else pieces? dotted (splitAt (· = ':') cs)

/-- What stands before the first two colons in a row and behind them. -/
def splitDoubleColon? : List Char → Option (List Char × List Char)
  | ':' :: ':' :: r => some ([], r)
  | c :: r => (splitDoubleColon? r).map fun (left, right) => (c :: left, right)
  | [] => none

/-- Two colons in a row stand for one zero or more. -/
def ipv6Pieces? (cs : List Char) : Option (List Nat) :=
  match splitDoubleColon? cs with
  | some (left, right) =>
    match piecesOfText? false left, piecesOfText? true right with
    | some left, some right =>
      let zeros := 8 - left.length - right.length
      if 0 < zeros then some (left ++ List.replicate zeros 0 ++ right) else none
    | _, _ => none
  | none => (piecesOfText? true cs).filter (·.length = 8)

/-- The text begins with a bracket. -/
def parseBracketed (cs : List Char) : Except ParseError Host :=
  if cs.getLast? ≠ some ']' then .error .invalidIpv6
  else match ipv6Pieces? (cs.drop 1).dropLast with
    | some pieces => .ok (.ipv6 pieces)
    | none => .error .invalidIpv6

/-- The longest run of zeros, the first of several: where it begins and how long it is. -/
def longestZeros (index : Nat) (best : Nat × Nat) (run : Nat) : List Nat → Nat × Nat
  | [] => best
  | n :: ns =>
    let run := if n = 0 then run + 1 else 0
    let best := if best.2 < run then (index + 1 - run, run) else best
    longestZeros (index + 1) best run ns

def hexText (n : Nat) : List Char := Nat.toDigits 16 n

def colonText (ns : List Nat) : List Char := List.intercalate [':'] (ns.map hexText)

/-- A run of two zeros or more is left out. -/
def ipv6Text (pieces : List Nat) : List Char :=
  let (start, size) := longestZeros 0 (0, 0) 0 pieces
  if size < 2 then colonText pieces
  else colonText (pieces.take start) ++ [':', ':'] ++ colonText (pieces.drop (start + size))

/-! ### Hosts -/

namespace Host

def forbidden : List Char := ['#', '/', ':', '<', '>', '?', '@', '[', '\\', ']', '^', '|']

def isForbidden (c : Char) : Bool := c = '\x00' || c = '\t' || c = '\n' || c = '\r' || c = ' ' || forbidden.contains c

def isForbiddenInDomain (c : Char) : Bool :=
  c.toNat ≤ 0x20 || c = '%' || 0x7E < c.toNat || forbidden.contains c

/-- A host of a special scheme. Its escapes are read first. Names beyond ASCII are refused, and those encoded as
`xn--` are taken as they stand. -/
def parse (text : List Char) : Except ParseError Host :=
  if text.head? = some '[' then parseBracketed text
  else match Utf8.decode? (unescape text) with
    | none => .error .invalidDomain
    | some name =>
      if name.any isForbiddenInDomain then .error .invalidDomain
      else
        let name := name.map Char.toLower
        if name.isEmpty then .error .emptyHost
        else if endsInNumber name then parseIpv4 name
        else .ok (.named name)

/-- A host of any other scheme. -/
def parseOpaque (text : List Char) : Except ParseError Host :=
  if text.head? = some '[' then parseBracketed text
  else if text.any isForbidden then .error .invalidHostCharacter
  else .ok (.named (escape .controls text))

def isEmpty (h : Host) : Bool := h = named []

def render : Host → List Char
  | named name => name
  | ipv4 n =>
    List.intercalate ['.']
      ([n / Nat.pow 2 24, n / Nat.pow 2 16 % 256, n / Nat.pow 2 8 % 256, n % 256].map Decimal.digitsOf)
  | ipv6 pieces => '[' :: ipv6Text pieces ++ [']']

end Host

end Entitlement.Url
