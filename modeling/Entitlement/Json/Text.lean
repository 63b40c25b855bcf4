import Entitlement.Text.Utf8

/-!
The smallest parts of a JSON text: blanks, the three words, and strings. A text is read from left to
right, and the first fault met is the one reported. A string whose value is needed must decode to
Unicode text; one that is passed over must only be well formed.
-/

namespace Entitlement.Json

/-- What is wrong with a text. -/
inductive Fault
  /-- It is no JSON. -/
  | malformed
  /-- It is JSON of another shape than the one asked for. -/
  | mismatch
  /-- It ends too early. -/
  | truncated
  deriving DecidableEq, Repr

/-- A value, and the text behind it. -/
abbrev Read (α : Type) := Except Fault (α × Bytes)

def code (c : Char) : UInt8 := UInt8.ofNat c.toNat

def isBlank (b : UInt8) : Bool := b = 0x20 || b = 0x0A || b = 0x0D || b = 0x09

def skipBlank (bs : Bytes) : Bytes := bs.dropWhile isBlank

/-- The rest of a word that has begun. -/
def expect : Bytes → Bytes → Except Fault Bytes
  | [], bs => .ok bs
  | _ :: _, [] => .error .truncated
  | w :: ws, b :: bs => if b = w then expect ws bs else .error .malformed

/-! ### Strings -/

def hexValue? (b : UInt8) : Option Nat :=
  let n := b.toNat
  if 0x30 ≤ n ∧ n ≤ 0x39 then some (n - 0x30)
  else if 0x41 ≤ n ∧ n ≤ 0x46 then some (n - 0x37)
  else if 0x61 ≤ n ∧ n ≤ 0x66 then some (n - 0x57)
  else none

/-- Four digits, whatever the first of them that is none: fewer than four bytes are an early end. -/
def hexEscape : Bytes → Read Nat
  | a :: b :: c :: d :: r =>
    match hexValue? a, hexValue? b, hexValue? c, hexValue? d with
    | some a, some b, some c, some d => .ok (0x1000 * a + 0x100 * b + 0x10 * c + d, r)
    | _, _, _, _ => .error .malformed
  | _ => .error .truncated

def isHighSurrogate (n : Nat) : Bool := 0xD800 ≤ n && n ≤ 0xDBFF

def isLowSurrogate (n : Nat) : Bool := 0xDC00 ≤ n && n ≤ 0xDFFF

/-- The escape of a second half, which must follow a first half at once. -/
def lowSurrogate (high : Nat) : Bytes → Read Bytes
  | [] => .error .truncated
  | b :: r =>
    if b ≠ code '\\' then .error .malformed
    else match r with
      | [] => .error .truncated
      | u :: r =>
        if u ≠ code 'u' then .error .malformed
        else match hexEscape r with
          | .error f => .error f
          | .ok (low, r) =>
            if isLowSurrogate low then
              .ok (Utf8.encodeChar (Char.ofNat (0x10000 + 0x400 * (high - 0xD800) + (low - 0xDC00))), r)
            else .error .malformed

/-- The escapes of a single letter. -/
def simpleEscape? (b : UInt8) : Option UInt8 :=
  if b = code '"' ∨ b = code '\\' ∨ b = code '/' then some b
  else if b = code 'b' then some 0x08
  else if b = code 'f' then some 0x0C
  else if b = code 'n' then some 0x0A
  else if b = code 'r' then some 0x0D
  else if b = code 't' then some 0x09
  else none

/-- What stands behind a backslash, as the bytes that it means. -/
def escape : Bytes → Read Bytes
  | [] => .error .truncated
  | b :: r =>
    match simpleEscape? b with
    | some c => .ok ([c], r)
    | none =>
      if b ≠ code 'u' then .error .malformed
      else match hexEscape r with
        | .error f => .error f
        | .ok (n, r) =>
          if isLowSurrogate n then .error .malformed
          else if isHighSurrogate n then lowSurrogate n r
          else .ok (Utf8.encodeChar (Char.ofNat n), r)

/-- The same, passed over: any four digits will do. -/
def skipEscape : Bytes → Except Fault Bytes
  | [] => .error .truncated
  | b :: r =>
    if (simpleEscape? b).isSome then .ok r
    else if b ≠ code 'u' then .error .malformed
    else (hexEscape r).map Prod.snd

/-- The bytes of a string whose opening quote has been read. `fuel` bounds the number of
characters. -/
def unescape : Nat → Bytes → Read Bytes
  | _, [] => .error .truncated
  | 0, _ :: _ => .error .truncated
  | fuel + 1, b :: r =>
    if b = code '"' then .ok ([], r)
    else if b = code '\\' then
      match escape r with
      | .error f => .error f
      | .ok (cs, r) => (unescape fuel r).map fun (rest, r) => (cs ++ rest, r)
    else if b < 0x20 then .error .malformed
    else (unescape fuel r).map fun (rest, r) => (b :: rest, r)

def skipString : Nat → Bytes → Except Fault Bytes
  | _, [] => .error .truncated
  | 0, _ :: _ => .error .truncated
  | fuel + 1, b :: r =>
    if b = code '"' then .ok r
    else if b = code '\\' then
      match skipEscape r with
      | .error f => .error f
      | .ok r => skipString fuel r
    else if b < 0x20 then .error .malformed
    else skipString fuel r

/-- The text of a string whose opening quote has been read. -/
def string (bs : Bytes) : Read String :=
  match unescape bs.length bs with
  | .error f => .error f
  | .ok (content, r) =>
    match Utf8.decode? content with
    | some cs => .ok (String.ofList cs, r)
    | none => .error .malformed

end Entitlement.Json
