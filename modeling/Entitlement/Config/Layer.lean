import Entitlement.Config.Setting
import Entitlement.Table

/-!
Settings of several origins, one laid over the other. A key is looked up in small letters, and it may
name a place inside a value; then the value becomes a table or a list, whatever it was before.
-/

namespace Entitlement

abbrev Settings := Table String FoundSetting

namespace Settings

/-- A place inside a value. -/
inductive Place
  | entry
  | index
  deriving DecidableEq, Repr

def isKeyChar (c : Char) : Bool := c.isAlphanum || c = ' ' || c = '_' || c = '-'

def isGap (c : Char) : Bool := c = ' ' || c = '\t'

/-- A whole number of 64 bits in brackets, counted from the end if it is negative. Blanks may stand
around it, but no plus sign before it. -/
def isIndex (body : List Char) : Bool :=
  let digits := ((body.dropWhile isGap).reverse.dropWhile isGap).reverse
  digits.head? ≠ some '+' && (Decimal.readInt64 (String.ofList digits)).toOption.isSome

/-- The place behind a key that the rest of a text goes on to name, if it names one. Only the first
step matters for what the value at the key becomes. -/
def places? : Nat → List Char → Option (List Place)
  | _, [] => some []
  | 0, _ :: _ => none
  | fuel + 1, '.' :: r =>
    if (r.takeWhile isKeyChar).isEmpty then none
    else (places? fuel (r.dropWhile isKeyChar)).map (.entry :: ·)
  | fuel + 1, '[' :: r =>
    let body := r.takeWhile (· ≠ ']')
    match r.dropWhile (· ≠ ']') with
    | _ :: rest => if isIndex body then (places? fuel rest).map (.index :: ·) else none
    | [] => none
  | _ + 1, _ :: _ => none

/-- The key that a name begins with, and the place inside it. A name that is no such path is a key as
a whole. -/
def splitName (name : String) : String × List Place :=
  let cs := name.toList
  let key := cs.takeWhile isKeyChar
  if key.isEmpty then (name, [])
  else match places? cs.length (cs.dropWhile isKeyChar) with
    | some places => (String.ofList key, places)
    | none => (name, [])

/-- Puts a value in its place. Tables are merged into what is there. -/
def assign (settings : Settings) (name : String) (found : FoundSetting) : Settings :=
  let (key, places) := splitName name
  let key := Text.lower key
  match places, found.value with
  | .entry :: _, _ => settings.insert key ⟨.table [], none⟩
  | .index :: _, _ => settings.insert key ⟨.list [], none⟩
  | [], .table _ => if settings.contains key then settings else settings.insert key ⟨.table [], none⟩
  | [], _ => settings.insert key found

/-- Lays the entries of a file over what is there. -/
def withEntries (settings : Settings) (origin : SettingOrigin) (entries : List (String × Setting)) :
    Settings :=
  entries.foldl (fun s e => s.assign e.1 ⟨e.2, some origin⟩) settings

def variablePrefix : String := "licensegate_"

/-- The key that an environment variable sets, if it is one of ours. -/
def keyOfVariable? (name : String) : Option String :=
  let cs := (Text.lower name).toList
  let mark := variablePrefix.toList
  if mark.isPrefixOf cs then some (String.ofList (cs.drop mark.length)) else none

def withEnvironment (settings : Settings) (environment : List (String × String)) : Settings :=
  environment.foldl
    (fun s v => match keyOfVariable? v.1 with
      | some key => s.assign key ⟨.ofText v.2, some .environment⟩
      | none => s)
    settings

end Settings

end Entitlement
