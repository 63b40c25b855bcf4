/-!
What a YAML text is made of once its layout is understood: where lists and tables begin and end, keys
and values, scalars, and what is said about them.
-/

namespace Entitlement.Yaml

inductive Token
  /-- A directive that states the version. -/
  | version
  /-- A directive that lets a handle stand for the beginning of tags. -/
  | handle (name standsFor : String)
  | documentStart
  | documentEnd
  | textEnd
  | blockList
  | blockTable
  /-- The end of a list or a table by indentation. -/
  | blockEnd
  | flowList
  | flowListEnd
  | flowTable
  | flowTableEnd
  /-- The dash in front of an item. -/
  | item
  /-- The comma between items. -/
  | separator
  | key
  | value
  | anchor (name : String)
  /-- A value that was given a name before. -/
  | reference (name : String)
  | tag (handle suffix : String)
  | scalar (plain : Bool) (text : String)
  deriving DecidableEq, Repr, Inhabited

end Entitlement.Yaml
