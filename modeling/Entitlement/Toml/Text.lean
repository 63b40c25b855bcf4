import Entitlement.Number.Decimal
import Entitlement.Number.Digit

/-!
The texts of TOML: comments, strings in four forms, and keys. A reader takes characters from the front
and gives back the rest, or nothing if the text is no TOML.
-/

namespace Entitlement.Toml

abbrev Read (α : Type) := Option (α × List Char)

def isBlank (c : Char) : Bool := c = ' ' || c = '\t'

def skipBlank (cs : List Char) : List Char := cs.dropWhile isBlank

/-- A character that may stand in comments and in strings of one line. -/
def isPlain (c : Char) : Bool := c = '\t' || (0x20 ≤ c.toNat && c.toNat ≠ 0x7F)

/-- What stands behind a line break, if one comes next. -/
def lineBreak? : List Char → Option (List Char)
  | '\n' :: r => some r
  | '\r' :: '\n' :: r => some r
  | _ => none

def skipComment : List Char → List Char
  | '#' :: r => r.dropWhile isPlain
  | cs => cs

/-- The next line, if nothing but blanks and a comment is left of this one. -/
def endLine? (cs : List Char) : Option (List Char) :=
  match skipComment (skipBlank cs) with
  | [] => some []
  | r => lineBreak? r

/-- Blanks, comments and line breaks. -/
def skipSpace : Nat → List Char → List Char
  | 0, cs => cs
  | fuel + 1, cs =>
    match lineBreak? (skipComment (skipBlank cs)) with
    | some r => skipSpace fuel r
    | none => skipComment (skipBlank cs)

/-! ### Strings -/

/-- What stands behind a backslash. -/
def escape : List Char → Read Char
  | 'b' :: r => some ('\x08', r)
  | 't' :: r => some ('\t', r)
  | 'n' :: r => some ('\n', r)
  | 'f' :: r => some ('\x0C', r)
  | 'r' :: r => some ('\r', r)
  | '"' :: r => some ('"', r)
  | '\\' :: r => some ('\\', r)
  | 'u' :: r => Digit.escaped? 4 r
  | 'U' :: r => Digit.escaped? 8 r
  | _ => none

def basicString : Nat → List Char → Read (List Char)
  | 0, _ | _, [] => none
  | fuel + 1, c :: r =>
    if c = '"' then some ([], r)
    else if c = '\\' then
      (escape r).bind fun (x, r) => (basicString fuel r).map fun (s, r) => (x :: s, r)
    else if isPlain c then (basicString fuel r).map fun (s, r) => (c :: s, r)
    else none

def literalString : List Char → Read (List Char)
  | [] => none
  | c :: r =>
    if c = '\x27' then some ([], r)
    else if isPlain c then (literalString r).map fun (s, r) => (c :: s, r)
    else none

/-- Three quotes end a string of several lines, and up to two more before them belong to it. -/
def closing (quote : Char) (cs : List Char) : Read (List Char) :=
  let n := (cs.takeWhile (· = quote)).length
  if n < 3 then none else some (List.replicate (min (n - 3) 2) quote, cs.drop (min n 5))

/-- Blanks and line breaks. -/
def skipLines : Nat → List Char → List Char
  | 0, cs => cs
  | fuel + 1, cs =>
    match lineBreak? (skipBlank cs) with
    | some r => skipLines fuel r
    | none => skipBlank cs

/-- A backslash at the end of a line takes the white space up to the next text with it. -/
def continuation? (cs : List Char) : Option (List Char) :=
  (lineBreak? (skipBlank cs)).map fun r => skipLines (r.length + 1) r

def multiLineString (quote : Char) : Nat → List Char → Read (List Char)
  | 0, _ | _, [] => none
  | fuel + 1, c :: r =>
    match closing quote (c :: r) with
    | some result => some result
    | none =>
      match lineBreak? (c :: r) with
      | some rest => (multiLineString quote fuel rest).map fun (s, r) => ('\n' :: s, r)
      | none =>
        if c = '\\' ∧ quote = '"' then
          match continuation? r with
          | some rest => multiLineString quote fuel rest
          | none => (escape r).bind fun (x, r) => (multiLineString quote fuel r).map fun (s, r) => (x :: s, r)
        else if isPlain c then (multiLineString quote fuel r).map fun (s, r) => (c :: s, r)
        else none

/-- A line break right behind the opening quotes does not count. -/
def multiLine (quote : Char) (cs : List Char) : Read (List Char) :=
  multiLineString quote (cs.length + 1) ((lineBreak? cs).getD cs)

/-- A string on one line. -/
def lineString : List Char → Read (List Char)
  | '"' :: r => basicString r.length r
  | '\x27' :: r => literalString r
  | _ => none

def string : List Char → Read (List Char)
  | '"' :: '"' :: '"' :: r => multiLine '"' r
  | '\x27' :: '\x27' :: '\x27' :: r => multiLine '\x27' r
  | cs => lineString cs

/-! ### Keys -/

def isBareKeyChar (c : Char) : Bool := c.isAlphanum || c = '_' || c = '-'

def simpleKey (cs : List Char) : Read String :=
  match cs.takeWhile isBareKeyChar with
  | [] => (lineString cs).map fun (s, r) => (String.ofList s, r)
  | key => some (String.ofList key, cs.dropWhile isBareKeyChar)

/-- Keys between points. -/
def dottedKey : Nat → List Char → Read (List String)
  | 0, _ => none
  | fuel + 1, cs =>
    (simpleKey (skipBlank cs)).bind fun (key, r) =>
      match skipBlank r with
      | '.' :: r => (dottedKey fuel r).map fun (keys, r) => (key :: keys, r)
      | r => some ([key], r)

/-- How many parts a key may have. -/
def maxParts : Nat := 79

def key (cs : List Char) : Read (List String) :=
  (dottedKey (cs.length + 1) cs).filter fun (path, _) => path.length ≤ maxParts

end Entitlement.Toml
