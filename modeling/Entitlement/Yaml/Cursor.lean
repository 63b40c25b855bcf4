/-!
Reading positions in YAML. Where something begins on its line decides what it belongs to, so a
position knows its line and its column.
-/

namespace Entitlement.Yaml

def isBlank (c : Char) : Bool := c = ' ' || c = '\t'

def isFlowMark (c : Char) : Bool := c = ',' || c = '[' || c = ']' || c = '\x7b' || c = '\x7d'

def isWordChar (c : Char) : Bool := c.isAlphanum || c = '_' || c = '-'

/-- Nothing more on this line. -/
def endsLine : List Char → Bool
  | [] | '\n' :: _ => true
  | _ => false

/-- A blank comes next, or nothing more on this line. -/
def endsWord : List Char → Bool
  | [] => true
  | c :: _ => isBlank c || c = '\n'

def startsWith (p : Char → Bool) (cs : List Char) : Bool := cs.head?.any p

/-- The characters that count: those before a NUL, with every line break as one line feed. -/
def characters : List Char → List Char
  | [] => []
  | '\r' :: '\n' :: r => '\n' :: characters r
  | c :: r => if c = '\x00' then [] else (if c = '\r' then '\n' else c) :: characters r

structure Cursor where
  rest : List Char
  line : Nat := 0
  column : Nat := 0
  /-- How many characters lie before the position. -/
  index : Nat := 0
  /-- Only blanks lie before the position on its line. -/
  fresh : Bool := true

/-- The blanks that were passed. -/
structure Gap where
  space : Bool
  tab : Bool

namespace Cursor

/-- Passes `n` characters of the line. -/
def advance (n : Nat) (c : Cursor) : Cursor :=
  { c with
    rest := c.rest.drop n
    column := c.column + n
    index := c.index + n
    fresh := c.fresh && (c.rest.take n).all isBlank }

/-- Where the text `rest` of the same line begins. -/
def moveTo (rest : List Char) (c : Cursor) : Cursor := c.advance (c.rest.length - rest.length)

def skipWhile (p : Char → Bool) (c : Cursor) : Cursor := c.advance (c.rest.takeWhile p).length

/-- Passes a line break, if one comes next. -/
def newline (c : Cursor) : Cursor :=
  match c.rest with
  | '\n' :: r => ⟨r, c.line + 1, 0, c.index + 1, true⟩
  | _ => c

def toLineEnd (c : Cursor) : Cursor := c.skipWhile (· ≠ '\n')

/-- Passes blanks, and a comment behind them. A comment that touches other text is an error. -/
def skipGap (tabs : Bool) (c : Cursor) : Option (Gap × Cursor) :=
  let blanks := c.rest.takeWhile fun x => x = ' ' || (tabs && x = '\t')
  let next := c.advance blanks.length
  let gap : Gap := ⟨blanks.contains ' ', blanks.contains '\t'⟩
  if startsWith (· = '#') next.rest then if blanks.isEmpty then none else some (gap, next.toLineEnd)
  else some (gap, next)

/-- Three marks at the beginning of a line. -/
def atMarker (mark : Char) (c : Cursor) : Bool :=
  c.column = 0 && c.rest.take 3 = [mark, mark, mark] && endsWord (c.rest.drop 3)

/-- A document begins or ends here. -/
def atBoundary (c : Cursor) : Bool := c.atMarker '-' || c.atMarker '.'

/-- The position is to the left of a column. -/
def isLeftOf (c : Cursor) (column : Int) : Bool := (c.column : Int) < column

end Cursor

/-- What was read, and the position behind it. -/
abbrev Read (α : Type) := Option (α × Cursor)

end Entitlement.Yaml
