import Entitlement.Number.Decimal
import Entitlement.Number.Digit
import Entitlement.Yaml.Cursor

/-!
The scalars of YAML as texts: plain ones, quoted ones, and blocks of lines. A scalar of several lines is
folded into one text: one line break becomes a space, and of more only the first is lost.
-/

namespace Entitlement.Yaml

/-! ### Folding -/

/-- What stands between two words. -/
structure Joint where
  blanks : List Char := []
  /-- Blanks no longer count, since a line break lies before them. -/
  onNewLine : Bool := false
  /-- A line break that can be folded. -/
  broken : Bool := false
  emptyLines : Nat := 0

namespace Joint

def addBlank (j : Joint) (c : Char) : Joint :=
  if j.onNewLine then j else { j with blanks := j.blanks ++ [c] }

def addBreak (j : Joint) : Joint :=
  if j.onNewLine then { j with emptyLines := j.emptyLines + 1 }
  else { j with blanks := [], onNewLine := true, broken := true }

def text (j : Joint) : List Char :=
  if !j.onNewLine then j.blanks
  else if j.broken ∧ j.emptyLines = 0 then [' ']
  else List.replicate j.emptyLines '\n'

end Joint

/-! ### Plain scalars -/

/-- A colon before a blank ends a plain scalar, and inside brackets their marks do. -/
def plainWord (flow : Bool) : List Char → List Char
  | [] => []
  | c :: r =>
    let isColon := c = ':' && (endsWord r || (flow && startsWith isFlowMark r))
    if endsWord (c :: r) || isColon || (flow && isFlowMark c) then [] else c :: plainWord flow r

/-- A tab may stand left of `minColumn` only on a line with nothing else on it. -/
def plainJoint (minColumn : Int) : Nat → Joint → Cursor → Read Joint
  | 0, j, c => some (j, c)
  | fuel + 1, j, c =>
    match c.rest with
    | [] => some (j, c)
    | x :: _ =>
      if x = '\n' then plainJoint minColumn fuel j.addBreak c.newline
      else if !isBlank x then some (j, c)
      else if x = '\t' ∧ j.onNewLine ∧ c.isLeftOf minColumn then
        (c.skipGap true).bind fun (_, c) =>
          if endsLine c.rest then plainJoint minColumn fuel { j with onNewLine := c.fresh } c else none
      else plainJoint minColumn fuel (j.addBlank x) (c.advance 1)

/-- The words of a plain scalar, from one that stands behind `j`. -/
def plainWords (flow : Bool) (minColumn : Int) : Nat → Joint → Cursor → Read (List Char)
  | 0, _, _ => none
  | fuel + 1, j, c =>
    if c.atBoundary || startsWith (· = '#') c.rest then some ([], c)
    else if flow && startsWith (· = '-') c.rest && startsWith isFlowMark (c.rest.drop 1) then none
    else
      match plainWord flow c.rest with
      | [] => some ([], c)
      | word =>
        let text := j.text ++ word
        let next := c.advance word.length
        if next.rest.isEmpty || !endsWord next.rest then some (text, next)
        else (plainJoint minColumn next.rest.length {} next).bind fun (j, c) =>
          if !flow && c.isLeftOf minColumn then some (text, c)
          else (plainWords flow minColumn fuel j c).map fun (more, c) => (text ++ more, c)

/-- A plain scalar in a block that begins at the column `indent`. -/
def plain (flow : Bool) (indent : Int) (c : Cursor) : Read (List Char) :=
  if flow && c.isLeftOf (indent + 1) then none
  else plainWords flow (indent + 1) (c.rest.length + 1) {} c

/-! ### Quoted scalars -/

/-- Escapes of a single letter. -/
def escapes : List (Char × Char) :=
  [('0', '\x00'), ('a', '\x07'), ('b', '\x08'), ('t', '\t'), ('\t', '\t'), ('n', '\n'), ('v', '\x0B'),
   ('f', '\x0C'), ('r', '\r'), ('e', '\x1B'), (' ', ' '), ('"', '"'), ('/', '/'), ('\\', '\\'),
   ('N', '\u0085'), ('_', '\u00a0'), ('L', '\u2028'), ('P', '\u2029')]

def escape : List Char → Option (Char × List Char)
  | 'x' :: r => Digit.escaped? 2 r
  | 'u' :: r => Digit.escaped? 4 r
  | 'U' :: r => Digit.escaped? 8 r
  | c :: r => (escapes.lookup c).map fun x => (x, r)
  | [] => none

def quoteMark (double : Bool) : Char := if double then '"' else '\x27'

/-- Characters up to a blank or the closing mark, and whether an escaped line break has ended them. -/
def quotedWord (double : Bool) : Nat → Cursor → Read (List Char × Bool)
  | 0, _ => none
  | fuel + 1, c =>
    let behind (x : Char) (n : Nat) : Read (List Char × Bool) :=
      (quotedWord double fuel (c.advance n)).map fun ((word, escaped), c) => ((x :: word, escaped), c)
    match c.rest with
    | [] => some (([], false), c)
    | x :: r =>
      if endsWord (x :: r) then some (([], false), c)
      else if x = quoteMark double then
        if !double && startsWith (· = x) r then behind x 2 else some (([], false), c)
      else if double ∧ x = '\\' then
        if startsWith (· = '\n') r then some (([], true), (c.advance 1).newline)
        else (escape r).bind fun (y, rest) => behind y (c.rest.length - rest.length)
      else behind x 1

/-- A tab may not stand left of the block on a new line. -/
def quotedJoint (indent : Int) : Nat → Joint → Cursor → Read Joint
  | 0, j, c => some (j, c)
  | fuel + 1, j, c =>
    match c.rest with
    | [] => some (j, c)
    | x :: _ =>
      if x = '\n' then quotedJoint indent fuel j.addBreak c.newline
      else if !isBlank x then some (j, c)
      else if x = '\t' ∧ j.onNewLine ∧ c.isLeftOf indent then none
      else quotedJoint indent fuel (j.addBlank x) (c.advance 1)

/-- Behind an escaped line break only empty lines count. -/
def quotedWords (double : Bool) (indent : Int) : Nat → Cursor → Read (List Char)
  | 0, _ => none
  | fuel + 1, c =>
    if c.atBoundary || c.rest.isEmpty || c.isLeftOf indent then none
    else (quotedWord double (c.rest.length + 1) c).bind fun ((word, escaped), c) =>
      if startsWith (· = quoteMark double) c.rest then some (word, c.advance 1)
      else (quotedJoint indent c.rest.length { onNewLine := escaped } c).bind fun (j, c) =>
        (quotedWords double indent fuel c).map fun (more, c) => (word ++ j.text ++ more, c)

/-- What may follow a quoted scalar that began on the line `line`. A key must fit on one line, except in
brackets. -/
def mayFollow (flow : Bool) (line : Nat) (c : Cursor) : Bool :=
  endsLine c.rest ||
    startsWith (fun x => if x = ':' then flow || c.line = line
      else flow && (x = ',' || x = ']' || x = '\x7d')) c.rest

def quoted (flow double : Bool) (indent : Int) (c : Cursor) : Read (List Char) :=
  (quotedWords double indent (c.rest.length + 1) (c.advance 1)).bind fun (text, last) =>
    (last.skipGap true).bind fun (_, next) => if mayFollow flow c.line next then some (text, next) else none

/-! ### Blocks of lines -/

/-- What happens to the line breaks at the end of a block. -/
inductive Chomp
  | strip
  | clip
  | keep
  deriving DecidableEq

def chomp? (c : Char) : Option Chomp := if c = '+' then some .keep else if c = '-' then some .strip else none

/-- The marks behind the sign of a block, in either order: its indentation and its end. -/
def blockHeader (cs : List Char) : Option ((Option Nat × Chomp) × List Char) :=
  let indentation (cs : List Char) : Option (Option Nat × List Char) := match cs with
    | [] => some (none, [])
    | c :: r =>
      if c = '0' then none
      else if Decimal.isDigit c then some (some (c.toNat - 0x30), r)
      else some (none, c :: r)
  match cs.head?.bind chomp? with
  | some chomp => (indentation (cs.drop 1)).map fun (n, r) => ((n, chomp), r)
  | none => (indentation cs).map fun (n, r) =>
    match r.head?.bind chomp? with
    | some chomp => if n.isSome then ((n, chomp), r.drop 1) else ((n, .clip), r)
    | none => ((n, .clip), r)

/-- Passes empty lines, and spaces up to the column `indent`. -/
def skipIndent (indent : Nat) : Nat → Nat → Cursor → Nat × Cursor
  | 0, n, c => (n, c)
  | fuel + 1, n, c =>
    let next := c.advance (min (indent - c.column) (c.rest.takeWhile (· = ' ')).length)
    if startsWith (· = '\n') next.rest then skipIndent indent fuel (n + 1) next.newline else (n, next)

/-- Passes empty lines and all spaces: the column of the widest line, and how many were empty. -/
def measureIndent (widest : Nat) : Nat → Nat → Cursor → Nat × Nat × Cursor
  | 0, n, c => (widest, n, c)
  | fuel + 1, n, c =>
    let next := c.skipWhile (· = ' ')
    let widest := max widest next.column
    if startsWith (· = '\n') next.rest then measureIndent widest fuel (n + 1) next.newline
    else (widest, n, next)

/-- What stands between two lines of a block. -/
structure LineJoint where
  broken : Bool
  emptyLines : Nat
  /-- The line before begins with a blank. -/
  indented : Bool

/-- A break between two lines is folded unless one of them begins with a blank. -/
def LineJoint.text (j : LineJoint) (folded indented : Bool) : List Char :=
  if folded && j.broken && !j.indented && !indented then
    if j.emptyLines = 0 then [' '] else List.replicate j.emptyLines '\n'
  else (if j.broken then ['\n'] else []) ++ List.replicate j.emptyLines '\n'

/-- The lines of a block, and what stands behind the last one. -/
def blockLines (folded : Bool) (indent : Nat) :
    Nat → LineJoint → Cursor → List Char × LineJoint × Cursor
  | 0, j, c => ([], j, c)
  | fuel + 1, j, c =>
    if c.column ≠ indent || c.rest.isEmpty || (indent = 0 && c.atMarker '.') then ([], j, c)
    else
      let indented := startsWith isBlank c.rest
      let text := j.text folded indented ++ c.rest.takeWhile (· ≠ '\n')
      let last := c.toLineEnd
      if last.rest.isEmpty then (text, ⟨false, 0, indented⟩, last)
      else
        let (n, next) := skipIndent indent last.rest.length 0 last.newline
        let (more, j, last) := blockLines folded indent fuel ⟨true, n, indented⟩ next
        (text ++ more, j, last)

/-- A block with nothing in it. -/
def emptyBlock (chomp : Chomp) (emptyLines : Nat) : List Char :=
  match chomp with
  | .strip => []
  | .clip => ['\n']
  | .keep => List.replicate (max emptyLines 1) '\n'

/-- The breaks at the end. The last line of the text counts as ended. -/
def blockTail (chomp : Chomp) (indent : Nat) (j : LineJoint) (c : Cursor) : List Char :=
  let ended := (if j.broken then ['\n'] else []) ++
    if c.rest.isEmpty ∧ max indent 1 ≤ c.column then ['\n'] else []
  match chomp with
  | .strip => []
  | .clip => ended
  | .keep => ended ++ List.replicate j.emptyLines '\n'

/-- The column of a block that begins on the next line, and how many empty lines stand before its first.
The column is stated, or it is that of the first line. -/
def blockIndent (outer : Int) (stated : Option Nat) (c : Cursor) : Nat × Nat × Cursor :=
  match stated with
  | some n =>
    let indent := (max outer 0).toNat + n
    (indent, skipIndent indent (c.rest.length + 1) 0 c)
  | none =>
    let (widest, n, next) := measureIndent 0 (c.rest.length + 1) 0 c
    (max widest (outer + 1).toNat, n, next)

/-- The lines of a block that begins behind its header at `c`, which began at the line `line`. -/
def blockBody (folded : Bool) (chomp : Chomp) (stated : Option Nat) (outer : Int) (line : Nat) (c : Cursor) :
    Read (List Char) :=
  let (indent, emptyLines, first) := blockIndent outer stated c
  if first.rest.isEmpty then
    some (if first.line = line then [] else emptyBlock chomp emptyLines, first)
  else if first.column < indent ∧ !first.isLeftOf (outer + 1) then none
  else
    let (text, j, last) := blockLines folded indent (first.rest.length + 1) ⟨false, emptyLines, false⟩ first
    some (text ++ blockTail chomp indent j last, last)

/-- A block of lines, from its sign on, inside a block that begins at the column `outer`. -/
def block (outer : Int) (c : Cursor) : Read (List Char) :=
  (blockHeader (c.rest.drop 1)).bind fun ((stated, chomp), rest) =>
    ((c.moveTo rest).skipGap true).bind fun (_, last) =>
      let body := last.newline
      if !endsLine last.rest || startsWith (· = '\t') body.rest then none
      else blockBody (startsWith (· = '>') c.rest) chomp stated outer c.line body

end Entitlement.Yaml
