import Entitlement.Toml.Scalar
import Entitlement.Toml.Tree

/-!
TOML documents as settings files hold them: lines with a key and a value, under headers that open
tables.
-/

namespace Entitlement.Toml

/-! ### Values -/

/-- The values of a list whose bracket has been read. -/
def items (value : List Char → Read Setting) : Nat → List Char → Read (List Setting)
  | 0, _ => none
  | fuel + 1, cs =>
    match skipSpace cs.length cs with
    | ']' :: r => some ([], r)
    | r =>
      (value r).bind fun (v, r) =>
        match skipSpace r.length r with
        | ',' :: r => (items value fuel r).map fun (vs, r) => (v :: vs, r)
        | ']' :: r => some ([v], r)
        | _ => none

/-- A key and its value. -/
def pair (value : List Char → Read Setting) (cs : List Char) : Read (List String × Setting) :=
  (key cs).bind fun (path, r) =>
    match skipBlank r with
    | '=' :: r => (value (skipBlank r)).map fun (v, r) => ((path, v), r)
    | _ => none

/-- The entries of a table on one line, which has some. -/
def inlineEntries (value : List Char → Read Setting) : Nat → Entries → List Char → Read Entries
  | 0, _, _ => none
  | fuel + 1, es, cs =>
    (pair value cs).bind fun ((path, v), r) =>
      (assign v false path es).bind fun es =>
        match skipBlank r with
        | ',' :: r => inlineEntries value fuel es r
        | '\x7d' :: r => some (es, r)
        | _ => none

/-- A value nested at most `depth` deep. -/
def value : Nat → List Char → Read Setting
  | depth, '[' :: r =>
    match depth with
    | 0 => none
    | depth + 1 => (items (value depth) (r.length + 1) r).map fun (vs, r) => (.list vs, r)
  | depth, '\x7b' :: r =>
    match depth with
    | 0 => none
    | depth + 1 =>
      match skipBlank r with
      | '\x7d' :: r => some (.table [], r)
      | r => (inlineEntries (value depth) (r.length + 1) [] r).map fun (es, r) => (.table (settingsOf es), r)
  | _, cs =>
    match cs with
    | '"' :: _ | '\x27' :: _ => (string cs).map fun (s, r) => (.text (String.ofList s), r)
    | cs => scalar cs

/-- How deep values may be nested. -/
def maxDepth : Nat := 79

/-! ### Lines -/

/-- A header: its path, and whether it adds to a list. -/
def header (inList : Bool) (cs : List Char) : Option (List String × List Char) :=
  (key cs).bind fun (path, r) =>
    match inList, r with
    | true, ']' :: ']' :: r | false, ']' :: r => (endLine? r).map fun r => (path, r)
    | _, _ => none

/-- Reads line after line into the table at `path`. -/
def lines : Nat → List String → Entries → List Char → Option Entries
  | 0, _, _, _ => none
  | fuel + 1, path, es, cs =>
    match skipSpace cs.length cs with
    | [] => some es
    | '[' :: '[' :: r =>
      (header true r).bind fun (path, r) => (openTable true path es).bind fun es => lines fuel path es r
    | '[' :: r =>
      (header false r).bind fun (path, r) => (openTable false path es).bind fun es => lines fuel path es r
    | r =>
      (pair (value maxDepth) r).bind fun ((name, v), r) =>
        (inTable (assign v false name) path es).bind fun es =>
          (endLine? r).bind fun r => lines fuel path es r

/-- A mark of the byte order may stand in front. -/
def withoutMark : List Char → List Char
  | '\uFEFF' :: r => r
  | cs => cs

/-- The table that a document holds. -/
def parse? (text : String) : Option (List (String × Setting)) :=
  (lines (text.length + 1) [] [] (withoutMark text.toList)).map settingsOf

end Entitlement.Toml
