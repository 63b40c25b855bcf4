import Entitlement.Number.Digit
import Entitlement.Text.Utf8

/-!
Escapes in URLs: a byte as a percent sign and two capital hexadecimal digits. Which characters a part
of a URL escapes depends on the part; what is not ASCII is escaped everywhere.
-/

namespace Entitlement.Url

/-- The characters that one part of a URL escapes. -/
structure EscapeSet where
  has : Char → Bool

namespace EscapeSet

def controls : EscapeSet := ⟨fun c => c.toNat < 0x20 || 0x7E < c.toNat⟩

def also (s : EscapeSet) (cs : List Char) : EscapeSet := ⟨fun c => s.has c || cs.contains c⟩

def fragment : EscapeSet := controls.also [' ', '"', '<', '>', '\x60']

def query : EscapeSet := controls.also [' ', '"', '#', '<', '>']

def specialQuery : EscapeSet := query.also ['\x27']

def path : EscapeSet := fragment.also ['#', '?', '\x7b', '\x7d']

def userInfo : EscapeSet := path.also ['/', ':', ';', '=', '@', '[', '\\', ']', '^', '|']

/-- A text that is to be one segment. -/
def segment : EscapeSet := path.also ['/', '%']

/-- The same, where a backslash would end a segment too. -/
def specialSegment : EscapeSet := segment.also ['\\']

end EscapeSet

def hexDigit (n : Nat) : Char := if n < 10 then Char.ofNat (0x30 + n) else Char.ofNat (0x37 + n)

def escapeByte (b : UInt8) : List Char := ['%', hexDigit (b.toNat / 16), hexDigit (b.toNat % 16)]

def escape (s : EscapeSet) (cs : List Char) : List Char :=
  cs.flatMap fun c => if s.has c then (Utf8.encodeChar c).flatMap escapeByte else [c]

/-- The bytes that a text with escapes stands for. A percent sign without two digits stands for
itself. -/
def unescape : List Char → Bytes
  | '%' :: high :: low :: r =>
    match Digit.value? high, Digit.value? low with
    | some h, some l => UInt8.ofNat (16 * h + l) :: unescape r
    | _, _ => Utf8.encodeChar '%' ++ unescape (high :: low :: r)
  | c :: r => Utf8.encodeChar c ++ unescape r
  | [] => []

end Entitlement.Url
