import Entitlement.Config.Setting

/-!
The tables of a TOML document as they are put together. Every table is defined in one place: under a
header, or by the points in keys. A header may only add to a table that so far existed as part of a
path.
-/

namespace Entitlement.Toml

/-- How a table came to be. -/
inductive TableKind
  /-- As a part of the path of a header. -/
  | implied
  | headed
  | dotted
  deriving DecidableEq, Repr

inductive Node
  | value (v : Setting)
  | table (kind : TableKind) (entries : List (String × Node))
  /-- A list of tables, each under a header of its own. -/
  | tables (items : List (List (String × Node)))
  deriving Inhabited

abbrev Entries := List (String × Node)

/-- Changes or adds the entry of `k`. -/
def alter (k : String) (f : Option Node → Option Node) : Entries → Option Entries
  | [] => (f none).map fun n => [(k, n)]
  | e :: es =>
    if e.1 = k then (f (some e.2)).map fun n => (k, n) :: es
    else (alter k f es).map (e :: ·)

/-- Changes the last table of a list. -/
def alterLast (f : Entries → Option Entries) (items : List Entries) : Option Node :=
  items.getLast?.bind fun es => (f es).map fun es => .tables (items.dropLast ++ [es])

/-- A header: opens the table at a path, or adds one to the list of tables there. -/
def openTable (inList : Bool) : List String → Entries → Option Entries
  | [], _ => none
  | [k], es =>
    alter k (fun
      | none => some (if inList then .tables [[]] else .table .headed [])
      | some (.table .implied es) => if inList then none else some (.table .headed es)
      | some (.tables items) => if inList then some (.tables (items ++ [[]])) else none
      | some _ => none) es
  | k :: k' :: ks, es =>
    alter k (fun
      | none => (openTable inList (k' :: ks) []).map (.table .implied)
      | some (.table kind es) => (openTable inList (k' :: ks) es).map (.table kind)
      | some (.tables items) => alterLast (openTable inList (k' :: ks)) items
      | some (.value _) => none) es

/-- Sets the value at a path inside one table. Points lead through tables that no header has opened,
but a value may be put, if `fixed`, only further on, into a table that points have made. -/
def assign (v : Setting) (fixed : Bool) : List String → Entries → Option Entries
  | [], _ => none
  | [k], es => if fixed then none else alter k (fun | none => some (.value v) | some _ => none) es
  | k :: k' :: ks, es =>
    alter k (fun
      | none => (assign v false (k' :: ks) []).map (.table .dotted)
      | some (.table .dotted es) => (assign v false (k' :: ks) es).map (.table .dotted)
      | some (.table .implied es) => (assign v true (k' :: ks) es).map (.table .implied)
      | some (.tables items) => alterLast (assign v true (k' :: ks)) items
      | some _ => none) es

/-- Works on the table that a header has opened. -/
def inTable (f : Entries → Option Entries) : List String → Entries → Option Entries
  | [], es => f es
  | k :: ks, es =>
    alter k (fun
      | some (.table kind es) => (inTable f ks es).map (.table kind)
      | some (.tables items) => alterLast (inTable f ks) items
      | _ => none) es

mutual

def Node.toSetting : Node → Setting
  | .value v => v
  | .table _ entries => .table (settingsOf entries)
  | .tables items => .list (tablesOf items)

def settingsOf : List (String × Node) → List (String × Setting)
  | [] => []
  | (k, n) :: es => (k, n.toSetting) :: settingsOf es

def tablesOf : List (List (String × Node)) → List Setting
  | [] => []
  | es :: items => .table (settingsOf es) :: tablesOf items

end

end Entitlement.Toml
