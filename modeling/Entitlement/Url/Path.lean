import Entitlement.Url.Host

/-!
Paths of URLs, as lists of segments. The segments that mean "here" and "one up", escaped or not, are
resolved while the path is read, and so is a drive letter at the front of a file path.
-/

namespace Entitlement.Url

/-- The path is none, if the list is empty, and otherwise every segment behind a slash. -/
abbrev Segments := List (List Char)

/-- A dot, or its escape in either case. -/
def dotless? : List Char → Option (List Char)
  | '.' :: r => some r
  | '%' :: '2' :: e :: r => if e = 'e' ∨ e = 'E' then some r else none
  | _ => none

def isSingleDot (s : List Char) : Bool := dotless? s = some []

def isDoubleDot (s : List Char) : Bool := (dotless? s).bind dotless? = some []

/-- A letter and a colon, or the bar that may stand for it. -/
def isDriveLetter : List Char → Bool
  | [l, m] => l.isAlpha && (m = ':' || m = '|')
  | _ => false

namespace Segments

/-- One up. A drive letter stays. -/
def up (segs : Segments) : Segments :=
  match segs.getLast? with
  | some last => if isDriveLetter last then segs else segs.dropLast
  | none => segs

/-- Adds one segment, escaped already. Behind the last one no slash follows. A drive letter at the
front gets its colon if `normal`. -/
def add (normal last : Bool) (segs : Segments) (s : List Char) : Segments :=
  if isDoubleDot s then if last then segs.up ++ [[]] else segs.up
  else if isSingleDot s then if last then segs ++ [[]] else segs
  else if normal ∧ segs = [] ∧ isDriveLetter s then segs ++ [s.take 1 ++ [':']]
  else segs ++ [s]

/-- Adds the segments of a text, the last of which ends the path. -/
def addAll (normal : Bool) (segs : Segments) : List (List Char) → Segments
  | [] => segs
  | [s] => segs.add normal true s
  | s :: t :: r => addAll normal (segs.add normal false s) (t :: r)

/-- In file paths slashes at the front count as one. -/
def dropLeadingEmpty : Segments → Segments
  | [] :: s :: r => dropLeadingEmpty (s :: r)
  | segs => segs

def render (segs : Segments) : List Char := segs.flatMap ('/' :: ·)

def isStripped (c : Char) : Bool := c = '\t' || c = '\n' || c = '\r'

/-- Appends a text as one segment. Dots alone are passed over; a path that is only a slash is
extended in its empty segment. -/
def push (special file : Bool) (segs : Segments) (text : List Char) : Segments :=
  if text = ['.'] ∨ text = ['.', '.'] then segs
  else
    let s := escape (if special then .specialSegment else .segment) (text.filter (!isStripped ·))
    let base : Segments := if segs = [[]] then [] else segs
    let pushed : Segments := base.add file true s
    if file then dropLeadingEmpty pushed else pushed

end Segments

end Entitlement.Url
