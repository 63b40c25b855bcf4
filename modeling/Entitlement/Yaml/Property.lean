import Entitlement.Yaml.Scalar
import Entitlement.Yaml.Token

/-!
What YAML says about a value or about a document: anchors that name values, tags, and directives. A tag
is split into a handle, which a directive may let stand for something else, and the rest.
-/

namespace Entitlement.Yaml

/-- The number of characters from the front that satisfy `p`, as a text. -/
def Cursor.takeText (p : Char → Bool) (c : Cursor) : String × Cursor :=
  (String.ofList (c.rest.takeWhile p), c.skipWhile p)

/-! ### Anchors -/

def isAnchorChar (c : Char) : Bool := !isBlank c && c ≠ '\n' && c ≠ '\uFEFF' && !isFlowMark c

/-- The name behind the sign of an anchor or of a reference. -/
def anchorName (c : Cursor) : Read String :=
  let (name, next) := (c.advance 1).takeText isAnchorChar
  if name.isEmpty then none else some (name, next)

/-! ### Tags -/

def isUriChar (c : Char) : Bool := c.isAlphanum || c = '-' || "#;/?:@&=+$,_.!~*'()[]%".toList.contains c

def isTagChar (c : Char) : Bool := isUriChar c && c ≠ '!' && !isFlowMark c

/-- How many bytes the escaped form of a character has, by the first of them. -/
def escapeWidth? (byte : Nat) : Option Nat :=
  if byte < 0x80 then some 1
  else if byte < 0xC0 then none
  else if byte < 0xE0 then some 2
  else if byte < 0xF0 then some 3
  else if byte < 0xF8 then some 4
  else none

def escapedByte : List Char → Option (Nat × List Char)
  | '%' :: a :: b :: r => (Digit.value? a).bind fun a => (Digit.value? b).map fun b => (16 * a + b, r)
  | _ => none

/-- Further escaped bytes, which are put behind the code as they are. -/
def escapedTail : Nat → Nat → List Char → Option (Nat × List Char)
  | 0, code, cs => some (code, cs)
  | n + 1, code, cs => (escapedByte cs).bind fun (byte, r) =>
    if 0x80 ≤ byte ∧ byte < 0xC0 then escapedTail n (256 * code + byte) r else none

def escapedChar (cs : List Char) : Option (Char × List Char) :=
  (escapedByte cs).bind fun (byte, r) => (escapeWidth? byte).bind fun width =>
    (escapedTail (width - 1) byte r).bind fun (code, r) => (Digit.char? code).map fun c => (c, r)

/-- The characters of a part of a tag, without their escapes. -/
def unescaped (p : Char → Bool) : Nat → List Char → Option (List Char × List Char)
  | 0, _ => none
  | fuel + 1, cs =>
    match cs with
    | [] => some ([], [])
    | c :: r =>
      if !p c then some ([], cs)
      else if c = '%' then
        (escapedChar cs).bind fun (x, r) => (unescaped p fuel r).map fun (s, r) => (x :: s, r)
      else (unescaped p fuel r).map fun (s, r) => (c :: s, r)

def Cursor.takeUnescaped (p : Char → Bool) (c : Cursor) : Read String :=
  (unescaped p (c.rest.length + 1) c.rest).map fun (s, rest) => (String.ofList s, c.moveTo rest)

/-- An exclamation mark and what of a word follows, with a second mark at its end if there is one. -/
def tagHandle (c : Cursor) : Read String :=
  if !startsWith (· = '!') c.rest then none
  else
    let word := (c.rest.drop 1).takeWhile isWordChar
    let next := c.advance (word.length + 1)
    if startsWith (· = '!') next.rest then some (String.ofList ('!' :: word ++ ['!']), next.advance 1)
    else some (String.ofList ('!' :: word), next)

/-- A mark on both sides. -/
def isNamedHandle (handle : String) : Bool := 2 ≤ handle.length && handle.endsWith "!"

/-- A tag with its own handle, a local tag, or one between angle brackets. -/
def tagParts (c : Cursor) : Read (String × String) :=
  if c.rest.take 2 = ['!', '<'] then
    ((c.advance 2).takeUnescaped isUriChar).bind fun (suffix, next) =>
      if startsWith (· = '>') next.rest then some (("", suffix), next.advance 1) else none
  else
    (tagHandle c).bind fun (handle, next) => (next.takeUnescaped isTagChar).bind fun (suffix, next) =>
      if isNamedHandle handle then if suffix.isEmpty then none else some ((handle, suffix), next)
      else
        let suffix := String.ofList (handle.toList.drop 1) ++ suffix
        some (if suffix.isEmpty then ("", "!") else ("!", suffix), next)

/-- A tag stands apart from what follows. -/
def tag (flow : Bool) (c : Cursor) : Read Token :=
  (tagParts c).bind fun ((handle, suffix), next) =>
    if endsWord next.rest || (flow && startsWith isFlowMark next.rest) then some (.tag handle suffix, next)
    else none

/-! ### Directives -/

/-- Nine digits at most. -/
def versionNumber (c : Cursor) : Option Cursor :=
  let n := (c.rest.takeWhile Decimal.isDigit).length
  if n = 0 ∨ 9 < n then none else some (c.advance n)

def versionDirective (c : Cursor) : Read Token :=
  (versionNumber (c.skipWhile isBlank)).bind fun c =>
    if startsWith (· = '.') c.rest then (versionNumber (c.advance 1)).map fun c => (.version, c) else none

/-- What a handle stands for: a local tag, or the beginning of a global one. -/
def tagBeginning (c : Cursor) : Read String :=
  if startsWith (· = '!') c.rest then
    ((c.advance 1).takeUnescaped isUriChar).map fun (s, c) => ("!" ++ s, c)
  else if startsWith isTagChar c.rest then c.takeUnescaped isUriChar
  else none

def handleDirective (c : Cursor) : Read Token :=
  (tagHandle (c.skipWhile isBlank)).bind fun (handle, c) =>
    if handle ≠ "!" ∧ !isNamedHandle handle then none
    else (tagBeginning (c.skipWhile isBlank)).bind fun (beginning, c) =>
      if endsWord c.rest then some (.handle handle beginning, c) else none

/-- A directive on a line of its own. One of no known name counts as a handle that changes nothing. -/
def directive (c : Cursor) : Read Token :=
  let (name, next) := (c.advance 1).takeText isWordChar
  let read : Read Token :=
    if name.isEmpty ∨ !endsWord next.rest then none
    else if name = "YAML" then versionDirective next
    else if name = "TAG" then handleDirective next
    else some (.handle "" "", next.toLineEnd)
  read.bind fun (token, c) => (c.skipGap true).bind fun (_, c) =>
    if endsLine c.rest then some (token, c.newline) else none

end Entitlement.Yaml
