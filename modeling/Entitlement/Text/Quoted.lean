import Entitlement.Text.Extender
import Entitlement.Text.Unprintable

/-!
Text as diagnostics show it: in quotes, with everything escaped that would not show as itself. The
same form names the fields of a record.
-/

namespace Entitlement.Text

/-- The quote around a text or a single character, which is escaped inside. -/
inductive QuoteMark
  | double
  | single
  deriving DecidableEq

def QuoteMark.char : QuoteMark → Char
  | double => '"'
  | single => '\x27'

def hexDigits (n : Nat) : List Char := Nat.toDigits 16 n

def escapeCode (c : Char) : List Char := ['\\', 'u', '\x7b'] ++ hexDigits c.toNat ++ ['\x7d']

/-- Extenders are escaped too, since they would change the character before them. -/
def escapeChar (mark : QuoteMark) (c : Char) : List Char :=
  if c = '\x00' then ['\\', '0']
  else if c = '\t' then ['\\', 't']
  else if c = '\r' then ['\\', 'r']
  else if c = '\n' then ['\\', 'n']
  else if c = '\\' || c = mark.char then ['\\', c]
  else if c.toNat < 0x20 || c.toNat = 0x7F then escapeCode c
  else if c.toNat < 0x7F then [c]
  else if isExtender c || isUnprintable c then escapeCode c
  else [c]

def quoted (s : String) : String :=
  String.ofList (['"'] ++ s.toList.flatMap (escapeChar .double) ++ ['"'])

def quotedChar (c : Char) : String :=
  String.ofList (['\x27'] ++ escapeChar .single c ++ ['\x27'])

/-- A record with the texts of its fields; `rest` if not all fields are shown. -/
def shown (name : String) (fields : List (String × String)) (rest : Bool := false) : String :=
  let shownFields := fields.map (fun f => f.1 ++ ": " ++ f.2) ++ (if rest then [".."] else [])
  name ++ " \x7b " ++ ", ".intercalate shownFields ++ " \x7d"

def shownBool (b : Bool) : String := if b then "true" else "false"

end Entitlement.Text
