import Entitlement.Config.Setting
import Entitlement.Number.Digit

/-!
The values of a YAML document. What a plain scalar means shows in its text, or its tag says it; a text
that does not fit its tag means nothing. Settings take fewer values: only texts and whole numbers as
keys, and no float without a number.
-/

namespace Entitlement.Yaml

inductive Node
  /-- A scalar that its tag does not fit. -/
  | unfit
  | null
  | bool (b : Bool)
  | int (i : Int64)
  /-- A float, as it is written. -/
  | real (written : String)
  | text (s : String)
  | list (items : List Node)
  | table (entries : List (Node × Node))
  deriving Inhabited

/-! ### Meaning of scalars -/

/-- A number in a base, with a sign or without. -/
def inBase? (base : Nat) (cs : List Char) : Option Int64 :=
  let (negative, ds) := match cs with
    | '-' :: r => (true, r)
    | '+' :: r => (false, r)
    | r => (false, r)
  (Digit.number? base ds).bind fun n =>
    let i : Int := if negative then -(n : Int) else n
    if ds.isEmpty ∨ i < -0x8000000000000000 ∨ 0x8000000000000000 ≤ i then none else some (Int64.ofInt i)

def int64? (s : String) : Option Int64 := (Decimal.readInt64 s).toOption

/-- A whole number with a mark of its base, or with a plus sign. -/
def markedInt? (s : String) : Option Int64 :=
  match s.toList with
  | '0' :: 'x' :: r => inBase? 16 r
  | '0' :: 'o' :: r => inBase? 8 r
  | '+' :: r => int64? (String.ofList r)
  | _ => none

/-- Words for the floats that are no numbers in the usual notation. -/
def floatWords : List String :=
  [".inf", ".Inf", ".INF", "+.inf", "+.Inf", "+.INF", "-.inf", "-.Inf", "-.INF", ".nan", ".NAN"]

def isReal (s : String) : Bool := floatWords.contains s || (Binary64.read? s).isSome

def isNullWord (s : String) : Bool := s = "~" || s = "null"

/-- What a plain scalar without a tag means. -/
def Node.ofPlain (s : String) : Node :=
  match markedInt? s with
  | some i => .int i
  | none =>
    if isNullWord s then .null
    else if s = "true" then .bool true
    else if s = "false" then .bool false
    else match int64? s with
      | some i => .int i
      | none => if isReal s then .real s else .text s

/-- A handle and the rest of a tag. -/
structure Tag where
  handle : String
  suffix : String

/-- The handle of the tags that everyone knows. -/
def standardHandle : String := "tag:yaml.org,2002:"

/-- What a plain scalar means under its tag. -/
def Node.ofTagged (tag : Tag) (s : String) : Node :=
  if tag.handle ≠ standardHandle then .text s
  else if tag.suffix = "bool" then
    if s = "true" then .bool true else if s = "false" then .bool false else .unfit
  else if tag.suffix = "int" then (int64? s).elim .unfit .int
  else if tag.suffix = "float" then if isReal s then .real s else .unfit
  else if tag.suffix = "null" then if isNullWord s then .null else .unfit
  else .text s

def Node.ofScalar (tag : Option Tag) (plain : Bool) (s : String) : Node :=
  if plain then tag.elim (.ofPlain s) (.ofTagged · s) else .text s

/-! ### Tables -/

/-- Equal keys, as far as settings know them. -/
def sameKey : Node → Node → Bool
  | .text a, .text b => a = b
  | .int a, .int b => a = b
  | _, _ => false

/-- The entries of a table, given its keys and values in turn. A key that means nothing is passed over,
and so what follows it is taken for the key. -/
def entriesOf? (done : List (Node × Node)) : List Node → Option (List (Node × Node))
  | .unfit :: r => entriesOf? done r
  | k :: v :: r => if done.any (sameKey k ·.1) then none else entriesOf? (done ++ [(k, v)]) r
  | _ => some done

/-! ### Settings -/

def keyText? : Node → Option String
  | .text s => some s
  | .int i => some (Decimal.ofInt64 i)
  | _ => none

mutual

def Node.toSetting? : Node → Option Setting
  | .unfit | .null => some .null
  | .bool b => some (.bool b)
  | .int i => some (.int i)
  | .real s => (Binary64.read? s).map .float
  | .text s => some (.text s)
  | .list items => (settingsOf? items).map .list
  | .table entries => (entrySettings? entries).map .table

def settingsOf? : List Node → Option (List Setting)
  | [] => some []
  | n :: ns => n.toSetting?.bind fun v => (settingsOf? ns).map (v :: ·)

def entrySettings? : List (Node × Node) → Option (List (String × Setting))
  | [] => some []
  | (k, n) :: es => (keyText? k).bind fun k => n.toSetting?.bind fun v => (entrySettings? es).map ((k, v) :: ·)

end

end Entitlement.Yaml
