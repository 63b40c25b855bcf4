import Entitlement.Json.Record
import Entitlement.Json.Value
import Entitlement.Toml
import Entitlement.Yaml

/-!
Settings files: which file a name means, and the settings in it. The end of its name tells how a file
is written; a name without a file may leave that end out.
-/

namespace Entitlement

inductive FileFormat
  | json
  | toml
  | yaml
  deriving DecidableEq, Repr

/-- The texts of the files there are. -/
abbrev Directory := String → Option String

namespace FileFormat

def extensions : List (String × FileFormat) :=
  [("json", .json), ("toml", .toml), ("yaml", .yaml), ("yml", .yaml)]

/-- What stands behind the last point of a name, if something stands before it. -/
def extensionOf (name : String) : String :=
  let cs := name.toList
  let tail := (cs.reverse.takeWhile (· ≠ '.')).reverse
  if cs.length ≤ tail.length + 1 then "" else String.ofList tail

/-- The file that a name means: the one of that name, or the first with a known end added. -/
def find? (files : Directory) (name : String) : Option (FileFormat × String) :=
  match files name with
  | some text => (extensions.lookup (extensionOf name)).map fun format => (format, text)
  | none => extensions.findSome? fun (extension, format) =>
    (files (name ++ "." ++ extension)).map fun text => (format, text)

end FileFormat

namespace Setting

/-- A whole number that does not fit becomes a float. -/
def ofNumber : Json.Number → Setting
  | .unsigned n => if n.toNat < Nat.pow 2 63 then .int (Int64.ofInt n.toNat) else .float (Float.ofNat n.toNat)
  | .negative i => .int i
  | .float x => .float x

mutual

def ofJson : Json.Value → Setting
  | .null => .null
  | .bool b => .bool b
  | .number n => ofNumber n
  | .text s => .text s
  | .list vs => .list (ofItems vs)
  | .object ms => .table (ofMembers ms)

def ofItems : List Json.Value → List Setting
  | [] => []
  | v :: vs => ofJson v :: ofItems vs

def ofMembers : List (String × Json.Value) → List (String × Setting)
  | [] => []
  | (k, v) :: ms => (k, ofJson v) :: ofMembers ms

end

end Setting

namespace FileFormat

def value? (format : FileFormat) (text : String) : Option Setting :=
  match format with
  | json => (Json.parse (utf8 text)).toOption.map Setting.ofJson
  | toml => (Toml.parse? text).map .table
  | yaml => Yaml.parse? text

/-- The settings of a file, which must be a table. -/
def entries? (format : FileFormat) (text : String) : Option (List (String × Setting)) :=
  match format.value? text with
  | some (.table entries) => some entries
  | _ => none

end FileFormat

end Entitlement
