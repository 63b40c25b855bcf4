import Entitlement.Yaml.Property

/-!
The layout of a YAML text: how columns and brackets make it a row of tokens. A scalar may turn out to be
a key only when its colon is found, and then a token is put in front of it. Lists and tables by
indentation end where something begins further to the left.
-/

namespace Entitlement.Yaml

/-- Something that becomes a key if a colon follows it. -/
structure KeyCandidate where
  /-- Where the token of the key goes. -/
  token : Nat
  line : Nat
  column : Nat
  index : Nat
  /-- Nothing else may stand at its place. -/
  required : Bool

structure Level where
  /-- The column of the block around this one. -/
  outer : Int
  /-- This block has a token of its own at its end. Others only push text to the right. -/
  closes : Bool

structure Layout where
  cursor : Cursor
  tokens : Array Token := #[]
  /-- The column at which the innermost block begins. -/
  indent : Int := -1
  levels : List Level := []
  /-- The candidate inside the innermost brackets, and those of the brackets around them. -/
  candidate : Option KeyCandidate := none
  outerCandidates : List (Option KeyCandidate) := []
  keyAllowed : Bool := true
  /-- A value may touch its colon here. -/
  adjacentAt : Nat := 0
  /-- Inside braces a pair needs no table of its own. -/
  inTable : Bool := false
  /-- For each square bracket, whether a pair without braces is being read in it. -/
  pairs : List Bool := []
  /-- The last token is an anchor or a tag in the first column. -/
  marginProperty : Bool := false
  ended : Bool := false

namespace Layout

def inFlow (l : Layout) : Bool := !l.outerCandidates.isEmpty

def push (l : Layout) (t : Token) : Layout := { l with tokens := l.tokens.push t, marginProperty := false }

def insert (l : Layout) (i : Nat) (t : Token) : Layout := { l with tokens := l.tokens.insertIdxIfInBounds i t }

def moveTo (l : Layout) (c : Cursor) : Layout := { l with cursor := c }

def advance (l : Layout) (n : Nat) : Layout := l.moveTo (l.cursor.advance n)

def skipGap? (l : Layout) : Option Layout := (l.cursor.skipGap true).map fun (_, c) => l.moveTo c

/-! ### Indentation -/

def topCloses (l : Layout) : Bool := l.levels.head?.any (·.closes)

/-- Ends the blocks to the right of a column. -/
def endBlocks (column : Int) (l : Layout) : List Level → Layout
  | [] => { l with levels := [] }
  | level :: outer =>
    if l.indent ≤ column then { l with levels := level :: outer }
    else endBlocks column { (if level.closes then l.push .blockEnd else l) with indent := level.outer } outer

def closeTo (l : Layout) (column : Int) : Layout := if l.inFlow then l else l.endBlocks column l.levels

/-- Leaves the innermost level if it only pushes text to the right. -/
def dropLoose (l : Layout) : Layout :=
  match l.levels with
  | ⟨outer, false⟩ :: levels => { l with indent := outer, levels }
  | _ => l

/-- Leaves all levels that only push text to the right. -/
def dropAllLoose (l : Layout) : List Level → Layout
  | ⟨outer, false⟩ :: levels => dropAllLoose { l with indent := outer, levels } levels
  | _ => l

/-- Begins a block at a column, unless one has begun there. The token goes to the place `i`. -/
def beginBlock (l : Layout) (column i : Nat) (t : Token) : Layout :=
  if l.inFlow then l
  else
    let l := if l.indent ≤ column then l.dropLoose else l
    if l.indent < column then
      { l.insert i t with indent := column, levels := ⟨l.indent, true⟩ :: l.levels }
    else l

/-- What follows must stand to the right of the block's own column. -/
def pushRight (l : Layout) : Layout :=
  if !l.inFlow ∧ l.topCloses then
    { l with indent := l.indent + 1, levels := ⟨l.indent, false⟩ :: l.levels }
  else l

/-! ### Keys -/

/-- What begins here may become a key. -/
def noteCandidate (l : Layout) : Layout :=
  if l.keyAllowed then
    let c := l.cursor
    let required := !l.inFlow && l.indent = c.column && l.topCloses
    { l with candidate := some ⟨l.tokens.size, c.line, c.column, c.index, required⟩ }
  else l

/-- What might have become a key did not. -/
def dropCandidate? (l : Layout) : Option Layout :=
  if l.candidate.any (·.required) then none else some { l with candidate := none }

/-- How far a key may be from its colon. -/
def keyReach : Nat := 1024

/-- A key and its colon stand on one line, except in brackets. -/
def dropStaleCandidate? (l : Layout) : Option Layout :=
  match l.candidate with
  | none => some l
  | some k =>
    if !l.inFlow ∧ (k.line < l.cursor.line ∨ k.index + keyReach < l.cursor.index) then l.dropCandidate?
    else some l

def allowKey (l : Layout) (allowed : Bool) : Layout := { l with keyAllowed := allowed }

/-- Ends a pair without braces. -/
def endPair (l : Layout) : Layout :=
  match l.pairs with
  | true :: r => { l.push .flowTableEnd with inTable := false, pairs := false :: r }
  | _ => l

/-! ### Space between tokens -/

/-- Passes blanks, comments and line breaks. A line with something on it may not be indented by tabs. -/
def skipSpace : Nat → Layout → Option Layout
  | 0, l => some l
  | fuel + 1, l =>
    let c := l.cursor
    match c.rest with
    | [] => some l
    | x :: _ =>
      if x = '\t' ∧ !l.levels.isEmpty ∧ c.fresh ∧ c.isLeftOf l.indent then
        (c.skipGap true).bind fun (_, c) => if endsLine c.rest then skipSpace fuel (l.moveTo c) else none
      else if isBlank x then skipSpace fuel (l.advance 1)
      else if x = '\n' then
        skipSpace fuel { l with cursor := c.newline, keyAllowed := l.keyAllowed || !l.inFlow }
      else if x = '#' then skipSpace fuel (l.moveTo c.toLineEnd)
      else some l

def toContent? (l : Layout) : Option Layout := skipSpace (l.cursor.rest.length + 1) l

/-- Passes spaces, comments and line breaks behind a question mark; whether there was a space or a
break. -/
def skipBehindMark : Nat → Bool → Layout → Bool × Layout
  | 0, found, l => (found, l)
  | fuel + 1, found, l =>
    match l.cursor.rest with
    | ' ' :: _ => skipBehindMark fuel true (l.advance 1)
    | '\n' :: _ =>
      skipBehindMark fuel true { l with cursor := l.cursor.newline, keyAllowed := l.keyAllowed || !l.inFlow }
    | '#' :: _ => skipBehindMark fuel found (l.moveTo l.cursor.toLineEnd)
    | _ => (found, l)

/-! ### Tokens -/

/-- Behind the end of the last line. -/
def endText (l : Layout) : Option Layout :=
  if l.candidate.any (·.required) ∨ l.outerCandidates.any (·.any (·.required)) then none
  else some { (l.closeTo (-1)).push .textEnd with ended := true }

/-- What stands between documents ends all blocks. -/
def betweenDocuments? (l : Layout) : Option Layout := (l.closeTo (-1)).dropCandidate?.map (·.allowKey false)

def directiveLine (l : Layout) : Option Layout :=
  l.betweenDocuments?.bind fun l => (directive l.cursor).map fun (t, c) => (l.moveTo c).push t

def startDocument (l : Layout) : Option Layout :=
  l.betweenDocuments?.map fun l => (l.advance 3).push .documentStart

def endDocument (l : Layout) : Option Layout :=
  l.betweenDocuments?.bind fun l => ((l.advance 3).push .documentEnd).skipGap?.filter (endsLine ·.cursor.rest)

/-- How deep brackets may be nested. -/
def maxFlow : Nat := 255

def openFlow (l : Layout) (t : Token) : Option Layout :=
  let l := l.noteCandidate.pushRight
  if maxFlow ≤ l.outerCandidates.length then none
  else
    let l := { l with candidate := none, outerCandidates := l.candidate :: l.outerCandidates }.allowKey true
    let l := if t = .flowTable then { l with inTable := true } else { l with pairs := false :: l.pairs }
    (l.advance 1).skipGap?.map (·.push t)

def closeFlow (l : Layout) (t : Token) : Option Layout :=
  l.dropCandidate?.bind fun l =>
    let l := match l.outerCandidates with
      | k :: outer => { l with candidate := k, outerCandidates := outer }
      | [] => l
    let l := l.allowKey false
    let l := if t = .flowListEnd then { l.endPair with pairs := l.endPair.pairs.drop 1 } else l
    (l.advance 1).skipGap?.map fun l =>
      (if l.inFlow then { l with adjacentAt := l.cursor.index } else l).push t

def comma (l : Layout) : Option Layout :=
  l.dropCandidate?.bind fun l => ((l.allowKey true).endPair.advance 1).skipGap?.map (·.push .separator)

def startsItem : List Char → Bool
  | '-' :: r => endsWord r
  | _ => false

/-- A dash. Behind it a tab may not indent another one. -/
def dash (l : Layout) : Option Layout :=
  if l.inFlow || !l.keyAllowed || (l.marginProperty && l.cursor.column = 0 && decide (-1 < l.indent)) then none
  else
    let l := (l.advance 1).beginBlock l.cursor.column l.tokens.size .blockList
    (l.cursor.skipGap true).bind fun (gap, c) =>
      if gap.tab ∧ startsItem c.rest then none
      else (c.skipGap false).bind fun (_, c) =>
        let l := l.moveTo c
        let l := if startsWith (fun x => x = '\n' || isFlowMark x) c.rest then l.pushRight else l
        l.dropCandidate?.map fun l => (l.allowKey true).push .item

/-- A question mark in front of a key. -/
def questionMark (l : Layout) : Option Layout :=
  if !l.inFlow ∧ !l.keyAllowed then none
  else
    let l := if l.inFlow then { l with inTable := true }
      else l.beginBlock l.cursor.column l.tokens.size .blockTable
    l.dropCandidate?.bind fun l =>
      let (found, l) := skipBehindMark (l.cursor.rest.length + 1) false ((l.allowKey (!l.inFlow)).advance 1)
      if found ∧ !startsWith (· = '\t') l.cursor.rest then some (l.push .key) else none

/-- A tab behind a colon must stand beside a space, if a word or a dash follows. -/
def skipColon (c : Cursor) : Option Cursor :=
  let next := c.advance 1
  if startsWith (· = '\t') next.rest then
    (next.skipGap true).bind fun (gap, c) =>
      if !gap.space ∧ startsWith isWordChar c.rest then none else some c
  else some next

/-- A colon behind something that now becomes a key. -/
def colonBehind (l : Layout) (k : KeyCandidate) (pair : Bool) (line : Nat) : Option Layout :=
  if pair ∧ k.line < line then none
  else
    let l := l.insert k.token .key
    let l := if pair then l.insert k.token .flowTable else l
    some ({ (l.beginBlock k.column k.token .blockTable).pushRight with candidate := none }.allowKey false)

/-- A colon with no key before it, or with one behind a question mark. -/
def colonAlone (l : Layout) (pair : Bool) (column : Nat) : Option Layout :=
  let l := if pair then l.push .flowTable else l
  if l.inFlow then some (l.pushRight.allowKey false)
  else if !l.keyAllowed then none
  else some ((l.beginBlock column l.tokens.size .blockTable).pushRight.allowKey true)

def colon (l : Layout) : Option Layout :=
  let pair := !l.pairs.isEmpty && !l.inTable
  let l := if pair then { l with pairs := true :: l.pairs.drop 1 } else l
  (skipColon l.cursor).bind fun c =>
    let moved := l.moveTo c
    let read := match l.candidate with
      | some k => moved.colonBehind k pair l.cursor.line
      | none => moved.colonAlone pair l.cursor.column
    read.map fun l => l.push .value

/-- An anchor, a reference or a tag. -/
def property (l : Layout) (read : Cursor → Read Token) : Option Layout :=
  let l := l.noteCandidate.allowKey false
  (read l.cursor).map fun (t, c) =>
    let l' := (l.moveTo c).push t
    match t with
    | .reference _ => l'
    | _ => { l' with marginProperty := l.cursor.column = 0 }

def quotedScalar (l : Layout) (double : Bool) : Option Layout :=
  let l := l.noteCandidate.allowKey false
  (quoted l.inFlow double l.indent l.cursor).bind fun (text, c) =>
    (l.moveTo c).toContent?.map fun l =>
      { l with adjacentAt := l.cursor.index }.push (.scalar false (String.ofList text))

/-- Behind a line break another key may begin. -/
def plainScalar (l : Layout) : Option Layout :=
  let l := l.noteCandidate.allowKey false
  let l := l.dropAllLoose l.levels
  (plain l.inFlow l.indent l.cursor).map fun (text, c) =>
    ((l.moveTo c).allowKey c.fresh).push (.scalar true (String.ofList text))

def blockScalar (l : Layout) : Option Layout :=
  let l := l.noteCandidate.allowKey true
  let l := l.dropAllLoose l.levels
  (block l.indent l.cursor).map fun (text, c) => (l.moveTo c).push (.scalar false (String.ofList text))

/-- A colon ends a word; in brackets it may also touch their marks, or follow what ends in a quote or a
bracket. -/
def isColon (l : Layout) : List Char → Bool
  | ':' :: r => endsWord r || (l.inFlow && (startsWith isFlowMark r || l.cursor.index = l.adjacentAt))
  | _ => false

/-- The token that begins at the position, on which something stands. -/
def token (l : Layout) : Option Layout :=
  let behind := l.cursor.rest.drop 1
  match l.cursor.rest with
  | [] => none
  | '[' :: _ => l.openFlow .flowList
  | '\x7b' :: _ => l.openFlow .flowTable
  | ']' :: _ => l.closeFlow .flowListEnd
  | '\x7d' :: _ => l.closeFlow .flowTableEnd
  | ',' :: _ => l.comma
  | '*' :: _ => l.property fun c => (anchorName c).map fun (name, c) => (.reference name, c)
  | '&' :: _ => l.property fun c => (anchorName c).map fun (name, c) => (.anchor name, c)
  | '!' :: _ => l.property (tag l.inFlow)
  | '\x27' :: _ => l.quotedScalar false
  | '"' :: _ => l.quotedScalar true
  | '%' :: _ | '@' :: _ | '\x60' :: _ => none
  | c :: _ =>
    if startsItem l.cursor.rest then l.dash
    else if c = '?' ∧ endsWord behind then l.questionMark
    else if l.isColon l.cursor.rest then l.colon
    else if (c = '|' ∨ c = '>') ∧ !l.inFlow then l.blockScalar
    else l.plainScalar

/-- Reads on to the end of the next token. -/
def next (l : Layout) : Option Layout :=
  l.toContent?.bind fun l => l.dropStaleCandidate?.bind fun l =>
    let l := l.closeTo l.cursor.column
    if l.cursor.rest.isEmpty then l.endText
    else if l.cursor.column = 0 ∧ startsWith (· = '%') l.cursor.rest then l.directiveLine
    else if l.cursor.atMarker '-' then l.startDocument
    else if l.cursor.atMarker '.' then l.endDocument
    else if l.cursor.isLeftOf l.indent then none
    else l.token

def run : Nat → Layout → Option (List Token)
  | 0, _ => none
  | fuel + 1, l => if l.ended then some l.tokens.toList else l.next.bind (run fuel)

end Layout

/-- The tokens of a text. -/
def tokens? (text : String) : Option (List Token) :=
  let cs := characters text.toList
  (Layout.run (cs.length + 2) { cursor := { rest := cs } })

end Entitlement.Yaml
