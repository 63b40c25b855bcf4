import Entitlement.Yaml.Node
import Entitlement.Yaml.Token

/-!
From tokens to the values of a document. A value may be given a name by an anchor, and a reference stands
for the value of that name; while that value is being read, a reference to it means nothing.
-/

namespace Entitlement.Yaml

/-- The tokens that are left, and the names given so far. -/
structure Source where
  tokens : List Token
  /-- Every anchor has a number of its own; the latest of a name counts. -/
  names : List (String × Nat) := []
  values : List (Nat × Node) := []

/-- What was read, and what is left. -/
abbrev Taken (α : Type) := Option (α × Source)

namespace Source

def skipTo (s : Source) (tokens : List Token) : Source := { s with tokens }

/-- The next token satisfies `p`. -/
def peek (s : Source) (p : Token → Bool) : Bool := s.tokens.head?.any p

/-- Gives a value the name that was taken for it. -/
def finish (s : Source) (number : Option Nat) (n : Node) : Source :=
  match number with
  | some i => { s with values := (i, n) :: s.values }
  | none => s

def reference? (s : Source) (name : String) : Option Node :=
  (s.names.lookup name).map fun i => (s.values.lookup i).getD .unfit

end Source

/-! ### Properties -/

/-- What the directives of a document let handles stand for. -/
abbrev Handles := List (String × String)

/-- Two marks stand for the standard handle. A handle with a name must have been declared. -/
def resolve? (handles : Handles) (handle suffix : String) : Option Tag :=
  match handles.lookup handle with
  | some standsFor => some ⟨standsFor, suffix⟩
  | none =>
    if handle = "!!" then some ⟨standardHandle, suffix⟩
    else if 2 ≤ handle.length ∧ handle.endsWith "!" then none
    else some ⟨handle, suffix⟩

structure Properties where
  tag : Option Tag := none
  anchor : Option Nat := none

def Properties.isEmpty (p : Properties) : Bool := p.tag.isNone && p.anchor.isNone

def takeAnchor (p : Properties) (s : Source) : Properties × Source :=
  match s.tokens with
  | .anchor name :: r =>
    let i := s.names.length
    ({ p with anchor := some i }, { s with tokens := r, names := (name, i) :: s.names })
  | _ => (p, s)

def takeTag (handles : Handles) (p : Properties) (s : Source) : Taken Properties :=
  match s.tokens with
  | .tag handle suffix :: r =>
    (resolve? handles handle suffix).map fun tag => ({ p with tag := some tag }, s.skipTo r)
  | _ => some (p, s)

/-- An anchor and a tag, in either order. -/
def properties (handles : Handles) (s : Source) : Taken Properties :=
  let (p, next) := takeAnchor {} s
  (takeTag handles p next).map fun (p, next) =>
    if p.anchor.isNone then takeAnchor p next else (p, next)

/-! ### Lists and tables -/

/-- Where a value stands: in brackets, behind a dash, or behind a key, where the items of a list need not
be indented. -/
inductive Place
  | flow
  | item
  | entry
  deriving DecidableEq

abbrev NodeReader := Place → Source → Taken Node

/-- Nothing stands there if the next token satisfies `p`. -/
def nullBefore (p : Token → Bool) (read : Source → Taken Node) (s : Source) : Taken Node :=
  if s.peek p then some (.null, s) else read s

def blockItems (node : NodeReader) : Nat → Source → Taken (List Node)
  | 0, _ => none
  | fuel + 1, s =>
    match s.tokens with
    | .blockEnd :: r => some ([], s.skipTo r)
    | .item :: r =>
      (nullBefore (fun t => t = .item || t = .blockEnd) (node .item) (s.skipTo r)).bind fun (v, s) =>
        (blockItems node fuel s).map fun (vs, s) => (v :: vs, s)
    | _ => none

def endsEntry (t : Token) : Bool := t = .key || t = .value || t = .blockEnd

/-- Items right below the key of their list. -/
def looseItems (node : NodeReader) : Nat → Source → Taken (List Node)
  | 0, _ => none
  | fuel + 1, s =>
    match s.tokens with
    | .item :: r =>
      (nullBefore (fun t => t = .item || endsEntry t) (node .item) (s.skipTo r)).bind fun (v, s) =>
        (looseItems node fuel s).map fun (vs, s) => (v :: vs, s)
    | _ => some ([], s)

/-- The value behind a colon, if there is one. -/
def valueBehind (ends : Token → Bool) (read : Source → Taken Node) (s : Source) : Taken Node :=
  match s.tokens with
  | .value :: r => nullBefore ends read (s.skipTo r)
  | _ => some (.null, s)

/-- Keys and values in turn. -/
def blockEntries (node : NodeReader) : Nat → Source → Taken (List Node)
  | 0, _ => none
  | fuel + 1, s =>
    let further (key : Taken Node) : Taken (List Node) :=
      key.bind fun (k, s) => (valueBehind endsEntry (node .entry) s).bind fun (v, s) =>
        (blockEntries node fuel s).map fun (ns, s) => (k :: v :: ns, s)
    match s.tokens with
    | .blockEnd :: r => some ([], s.skipTo r)
    | .key :: r => further (nullBefore endsEntry (node .entry) (s.skipTo r))
    | .value :: _ => further (some (.null, s))
    | _ => none

def endsFlowEntry (t : Token) : Bool := t = .separator || t = .flowTableEnd

/-- Passes the comma in front of all items but the first. -/
def separated (first : Bool) (s : Source) : Option Source :=
  if first then some s
  else match s.tokens with
    | .separator :: r => some (s.skipTo r)
    | _ => none

def flowEntries (node : NodeReader) : Nat → Bool → Source → Taken (List Node)
  | 0, _, _ => none
  | fuel + 1, first, s =>
    let further (k v : Node) (s : Source) : Taken (List Node) :=
      (flowEntries node fuel false s).map fun (ns, s) => (k :: v :: ns, s)
    match s.tokens with
    | .flowTableEnd :: r => some ([], s.skipTo r)
    | _ =>
      (separated first s).bind fun s =>
        match s.tokens with
        | .flowTableEnd :: r => some ([], s.skipTo r)
        | .key :: r =>
          (nullBefore (fun t => t = .value || endsFlowEntry t) (node .flow) (s.skipTo r)).bind fun (k, s) =>
            (valueBehind endsFlowEntry (node .flow) s).bind fun (v, s) => further k v s
        | .value :: _ => (valueBehind endsFlowEntry (node .flow) s).bind fun (v, s) => further .null v s
        | _ => (node .flow s).bind fun (k, s) => further k .null s

def endsFlowItem (t : Token) : Bool := t = .separator || t = .flowListEnd

/-- A pair without braces. What ends it where its key should be is lost. -/
def pair (node : NodeReader) (s : Source) : Taken Node :=
  let key : Taken Node :=
    if s.peek fun t => t = .value || endsFlowItem t then some (.null, s.skipTo (s.tokens.drop 1))
    else node .flow s
  key.bind fun (k, s) => (valueBehind endsFlowItem (node .flow) s).bind fun (v, s) =>
    (entriesOf? [] [k, v]).map fun es => (.table es, s)

def flowItems (node : NodeReader) : Nat → Bool → Source → Taken (List Node)
  | 0, _, _ => none
  | fuel + 1, first, s =>
    match s.tokens with
    | .flowListEnd :: r => some ([], s.skipTo r)
    | _ =>
      (separated first s).bind fun s =>
        match s.tokens with
        | .flowListEnd :: r => some ([], s.skipTo r)
        | tokens =>
          let read := match tokens with
            | .key :: r => pair node (s.skipTo r)
            | _ => node .flow s
          read.bind fun (v, s) => (flowItems node fuel false s).map fun (vs, s) => (v :: vs, s)

/-! ### Values -/

/-- What the properties `p` are about. If there are any, it may be nothing. -/
def content (node : NodeReader) (p : Properties) (place : Place) (s : Source) : Taken Node :=
  let fuel := s.tokens.length + 1
  let list (read : Taken (List Node)) : Taken Node := read.map fun (vs, s) => (.list vs, s)
  let table (read : Taken (List Node)) : Taken Node :=
    read.bind fun (ns, s) => (entriesOf? [] ns).map fun es => (.table es, s)
  let nothing : Taken Node := if p.isEmpty then none else some (.ofScalar p.tag true "", s)
  match s.tokens with
  | .scalar plain text :: r => some (.ofScalar p.tag plain text, s.skipTo r)
  | .flowList :: r => list (flowItems node fuel true (s.skipTo r))
  | .flowTable :: r => table (flowEntries node fuel true (s.skipTo r))
  | .item :: _ => if place = .entry then list (looseItems node fuel s) else nothing
  | .blockList :: r => if place = .flow then nothing else list (blockItems node fuel (s.skipTo r))
  | .blockTable :: r => if place = .flow then nothing else table (blockEntries node fuel (s.skipTo r))
  | _ => nothing

/-- A value nested at most `depth` deep. -/
def node (handles : Handles) : Nat → NodeReader
  | 0, _, _ => none
  | depth + 1, place, s =>
    match s.tokens with
    | .reference name :: r => (s.reference? name).map fun n => (n, s.skipTo r)
    | _ =>
      (properties handles s).bind fun (p, s) =>
        (content (node handles depth) p place s).map fun (n, s) => (n, s.finish p.anchor n)

/-! ### Documents -/

def isDirective : Token → Bool
  | .version | .handle _ _ => true
  | _ => false

/-- What the last directive declares. The version may be stated once. -/
def handlesOf? (versionSeen : Bool) (handles : Handles) : List Token → Option Handles
  | [] => some handles
  | .version :: r => if versionSeen then none else handlesOf? true [] r
  | .handle name standsFor :: r => handlesOf? versionSeen [(name, standsFor)] r
  | _ :: _ => none

/-- A document that begins with a line of dashes may be empty. -/
def startedDocument (handles : Handles) (tokens : List Token) : Taken Node :=
  nullBefore (fun t => isDirective t || t = .documentStart || t = .documentEnd || t = .textEnd)
    (node handles (tokens.length + 1) .item) { tokens }

/-- The first document of a text. Behind directives it begins with a line of dashes. -/
def document (tokens : List Token) : Taken Node :=
  let directives := tokens.takeWhile isDirective
  (handlesOf? false [] directives).bind fun handles =>
    match tokens.dropWhile isDirective with
    | .documentStart :: r => startedDocument handles r
    | r => if directives.isEmpty then node handles (r.length + 1) .item { tokens := r } else none

/-- The value of the one document of a text. A text without any is an empty table. -/
def documentNode? (tokens : List Token) : Option Node :=
  match tokens.dropWhile (· = .documentEnd) with
  | [.textEnd] => some (.table [])
  | tokens => (document tokens).bind fun (n, s) =>
    if s.tokens.dropWhile (· = .documentEnd) = [.textEnd] then some n else none

end Entitlement.Yaml
