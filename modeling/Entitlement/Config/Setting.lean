import Entitlement.Config.Error
import Entitlement.Number.Shortest
import Entitlement.Saturating
import Entitlement.Text.Lowercase

/-!
Values of settings as a file or the environment gives them, and what they count for where a text, a
number or a switch is wanted. Each of the three accepts the others as far as they make sense.
-/

namespace Entitlement

inductive Setting
  | null
  | bool (b : Bool)
  | int (i : Int64)
  | float (x : Float)
  | text (s : String)
  | list (items : List Setting)
  | table (entries : List (String × Setting))
  deriving Inhabited

/-- A value under a key. One that was put together from several places has no origin. -/
structure FoundSetting where
  value : Setting
  origin : Option SettingOrigin
  deriving Inhabited

namespace Setting

/-- The environment has texts only. One that reads as a switch or a number is taken for it. -/
def ofText (s : String) : Setting :=
  let word := Text.lower s
  if word = "true" then .bool true
  else if word = "false" then .bool false
  else match Decimal.readInt64 s with
    | .ok i => .int i
    | .error _ =>
      match Binary64.read? s with
      | some x => .float x
      | none => .text s

def asText? : Setting → Except (Misplaced × Wanted) String
  | null => .error (.nothing, .text)
  | bool b => .ok (Text.shownBool b)
  | int i => .ok (Decimal.ofInt64 i)
  | float x => .ok (Shortest.text x)
  | text s => .ok s
  | list _ => .error (.list, .text)
  | table _ => .error (.table, .text)

def asUInt64? : Setting → Except (Misplaced × Wanted) UInt64
  | null => .error (.nothing, .integer)
  | bool b => .ok (if b then 1 else 0)
  | int i => if i < 0 then .error (.integer i, .unsignedInteger) else .ok (Saturating.toUInt64 i)
  | float x => .ok (Binary64.roundToUInt64 x)
  | text s =>
    let word := Text.lower s
    if word = "true" ∨ word = "on" ∨ word = "yes" then .ok 1
    else if word = "false" ∨ word = "off" ∨ word = "no" then .ok 0
    else (Decimal.readUInt64 s).mapError fun _ => (.text s, .integer)
  | list _ => .error (.list, .integer)
  | table _ => .error (.table, .integer)

/-- A text that is no switch is reported in small letters. -/
def asBool? : Setting → Except (Misplaced × Wanted) Bool
  | null => .error (.nothing, .boolean)
  | bool b => .ok b
  | int i => .ok (i ≠ 0)
  | float x => .ok (x != 0)
  | text s =>
    let word := Text.lower s
    if word = "1" ∨ word = "true" ∨ word = "on" ∨ word = "yes" then .ok true
    else if word = "0" ∨ word = "false" ∨ word = "off" ∨ word = "no" then .ok false
    else .error (.text word, .boolean)
  | list _ => .error (.list, .boolean)
  | table _ => .error (.table, .boolean)

end Setting

end Entitlement
