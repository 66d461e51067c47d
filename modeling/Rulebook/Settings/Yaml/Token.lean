import Rulebook.Settings.Yaml.Scalar

/-!
# Tokens of a YAML text

Collections in blocks are bounded by indentation: a token opens one where its first entry is
indented deeper than what surrounds it, and one closes it where a line is indented less. A key that
nothing announces is known only once the `:` after it is met, so the place where one may have begun
is kept (`KeySpot`), and the tokens that announce it are put there later.
-/

namespace Rulebook.Yaml

inductive Token where
  | directive
  /-- The line `---`. -/
  | begins
  /-- The line `...`. -/
  | ends
  | openBlockList
  | openBlockTable
  | closeBlock
  | openList
  | closeList
  | openTable
  | closeTable
  /-- The mark `-` of an entry in a block. -/
  | dash
  | comma
  | key
  | value
  | alias (name : String)
  | anchor (name : String)
  /-- A tag, with its name if it is one of those that every document has. -/
  | tag (known : Option String)
  | scalar (isPlain : Bool) (text : List Char)
  deriving DecidableEq

/-- A place where a key may have begun. -/
structure KeySpot where
  line : Nat
  column : Nat
  index : Nat
  /-- How many tokens stand before it. -/
  place : Nat
  /-- Must a key begin here? -/
  isRequired : Bool

/-- A surrounding indentation. -/
structure Indent where
  column : Int
  /-- Did a block begin with the indentation inside this one? -/
  isBlock : Bool

/-- How far a text has been read. -/
structure Scan where
  cursor : Cursor
  tokens : Array Token := #[]
  /-- The indentation of the innermost collection in a block. -/
  indent : Int := -1
  outer : List Indent := []
  keySpot : Option KeySpot := none
  /-- The spots outside each pair of brackets that is open, the innermost first. -/
  outerSpots : List (Option KeySpot) := []
  /-- May a key begin here? -/
  keyAllowed : Bool := true
  /-- Where a `:` may join a value to its key without white space. -/
  joinsAt : Nat := 0

namespace Scan

/-- Is the place between brackets? -/
def inFlow (s : Scan) : Bool := !s.outerSpots.isEmpty

def emit (s : Scan) (t : Token) : Scan := { s with tokens := s.tokens.push t }

/-- Puts a token before those from a place on. -/
def emitAt (s : Scan) (place : Nat) (t : Token) : Scan :=
  { s with tokens := s.tokens.insertIdxIfInBounds place t }

def allow (s : Scan) (allowed : Bool) : Scan := { s with keyAllowed := allowed }

def move (s : Scan) (c : Cursor) : Scan := { s with cursor := c }

/-! ## Indentation -/

/-- Leaves an indentation that no block began with. -/
def leaveMargin (s : Scan) : Scan :=
  match s.outer with
  | outer :: rest => if outer.isBlock then s else { s with indent := outer.column, outer := rest }
  | [] => s

/-- Opens a block at a column if that is deeper than the indentation; the token that opens it is put
before those from a place on. -/
def openBlock (s : Scan) (column place : Nat) (t : Token) : Scan :=
  if s.inFlow then s
  else
    let s := if s.indent ≤ column then s.leaveMargin else s
    if s.indent < column then
      { s.emitAt place t with indent := column, outer := ⟨s.indent, true⟩ :: s.outer }
    else s

/-- Closes the blocks that are deeper than a column. -/
def closeBlocks (column : Int) : List Indent → Scan → Scan
  | [], s => s
  | outer :: rest, s =>
    if s.indent ≤ column then s
    else
      let s := { s with indent := outer.column, outer := rest }
      closeBlocks column rest (if outer.isBlock then s.emit .closeBlock else s)

def closeTo (s : Scan) (column : Int) : Scan :=
  if s.inFlow then s else closeBlocks column s.outer s

/-- What follows must be indented by one column at least. -/
def addMargin (s : Scan) : Scan :=
  if !s.inFlow && s.outer.head?.any (·.isBlock) then
    { s with indent := s.indent + 1, outer := ⟨s.indent, false⟩ :: s.outer }
  else s

/-! ## Keys -/

/-- Notes that a key may begin here. -/
def markSpot (s : Scan) : Scan :=
  if s.keyAllowed then
    let c := s.cursor
    { s with keySpot := some {
        line := c.line
        column := c.column
        index := c.index
        place := s.tokens.size
        isRequired := !s.inFlow && s.indent == c.column && s.outer.head?.any (·.isBlock) } }
  else s

/-- No key can have begun where one may have. -/
def dropSpot? (s : Scan) : Option Scan :=
  if s.keySpot.any (·.isRequired) then none else some { s with keySpot := none }

/-- A key outside brackets ends on its line, and within 1024 characters. -/
def dropStale? (s : Scan) : Option Scan :=
  match s.keySpot with
  | none => some s
  | some spot =>
    let c := s.cursor
    if !s.inFlow && (spot.line < c.line || spot.index + 1024 < c.index) then s.dropSpot?
    else some s

/-! ## White space -/

/-- Passes white space, line ends and comments, in at most a number of steps. -/
def passGap? : Nat → Scan → Option Scan
  | 0, _ => none
  | n + 1, s => do
    let c := s.cursor
    if c.next = '\t' ∧ !s.outer.isEmpty ∧ c.isFresh ∧ c.column < s.indent then
      let passed ← c.passTail? true
      if passed.cursor.atLineEnd then passGap? n (s.move passed.cursor) else none
    else if isSpace c.next then passGap? n (s.move (c.passSpace 1))
    else if isBreak c.next then
      passGap? n { s with cursor := c.passBreak, keyAllowed := s.keyAllowed || !s.inFlow }
    else if c.next = '#' then passGap? n (s.move c.passLine)
    else some s

/-- Passes white space, line ends and comments. -/
def skip? (s : Scan) : Option Scan := passGap? (s.cursor.rest.length + 1) s

/-- Passes white space up to the end of the line. -/
def skipTail? (s : Scan) : Option Scan := do
  return s.move (← s.cursor.passTail? true).cursor

/-! ## Tokens -/

/-- Reads a line that begins with `%`. -/
def readDirective? (s : Scan) : Option Scan := do
  let s ← (s.closeTo (-1)).dropSpot?
  let c := s.cursor
  let words := (c.pass 1).rest.takeWhile fun x => !(isBreak x || isEnd x)
  let name := words.takeWhile fun x => !isSpace x
  if name = "YAML".toList then
    let version := (words.drop name.length).dropWhile isSpace
    let (major, rest) := splitDigits version
    let '.' :: rest := rest | none
    let (minor, rest) := splitDigits rest
    if major = [] ∨ minor = [] ∨ !(rest.head?.all isSpace) then none
  return ((s.allow false).move c.passLine).emit .directive

/-- Reads a line that begins or ends a document. -/
def readBoundary? (s : Scan) (t : Token) : Option Scan := do
  let s ← (s.closeTo (-1)).dropSpot?
  return ((s.allow false).move (s.cursor.pass 3)).emit t

def readOpening? (s : Scan) (t : Token) : Option Scan := do
  let s := s.markSpot.addMargin
  let s := { s with
    outerSpots := s.keySpot :: s.outerSpots
    keySpot := none
    keyAllowed := true
    cursor := s.cursor.pass 1 }
  return (← s.skipTail?).emit t

def readClosing? (s : Scan) (t : Token) : Option Scan := do
  let s ← s.dropSpot?
  let s := match s.outerSpots with
    | spot :: rest => { s with keySpot := spot, outerSpots := rest }
    | [] => s
  let s ← ((s.allow false).move (s.cursor.pass 1)).skipTail?
  let s := if s.inFlow then { s with joinsAt := s.cursor.index } else s
  return s.emit t

def readComma? (s : Scan) : Option Scan := do
  let s ← s.dropSpot?
  return (← ((s.allow true).move (s.cursor.pass 1)).skipTail?).emit .comma

def readDash? (s : Scan) : Option Scan := do
  if s.inFlow ∨ !s.keyAllowed then none
  else
    let column := s.cursor.column
    let s := (s.move (s.cursor.pass 1)).openBlock column s.tokens.size .openBlockList
    let passed ← s.cursor.passTail? true
    let c := passed.cursor
    if passed.hasTab ∧ c.next = '-' ∧ isGap (c.peek 1) then none
    else
      let s := s.move c
      let s := if isBreak c.next ∨ isFlow c.next then s.addMargin else s
      let s ← s.dropSpot?
      return (s.allow true).emit .dash

/-- Reads the mark `?`, which announces a key. -/
def readKey? (s : Scan) : Option Scan := do
  if !s.inFlow ∧ !s.keyAllowed then none
  else
    let s ← (s.openBlock s.cursor.column s.tokens.size .openBlockTable).dropSpot?
    let c := s.cursor.pass 1
    let c := c.passSpace (c.rest.takeWhile (· == ' ')).length
    if c.next = '\t' then none else return ((s.allow !s.inFlow).move c).emit .key

/-- Passes the mark `:`, which is followed by white space before a value. -/
def passColon? (s : Scan) : Option Scan := do
  let c := s.cursor.pass 1
  if c.next = '\t' then
    let passed ← c.passTail? true
    let x := passed.cursor.next
    if !passed.hasSpace && (x == '-' || x == '_' || x.isAlphanum) then none
    else return s.move passed.cursor
  else return s.move c

/-- Reads the mark `:`, which stands between a key and its value. -/
def readValue? (s : Scan) : Option Scan := do
  let column := s.cursor.column
  let s ← s.passColon?
  match s.keySpot with
  | some spot =>
    let s := s.emitAt spot.place .key
    let s := (s.openBlock spot.column spot.place .openBlockTable).addMargin
    return ({ s with keySpot := none, keyAllowed := false }).emit .value
  | none =>
    if s.inFlow then return (s.allow false).emit .value
    else if !s.keyAllowed then none
    else
      let s := (s.openBlock column s.tokens.size .openBlockTable).addMargin
      return (s.allow true).emit .value

/-- Reads the name after `*` or `&`. -/
def readName? (s : Scan) (make : String → Token) : Option Scan := do
  let s := s.markSpot.allow false
  let c := s.cursor.pass 1
  let name := c.rest.takeWhile fun x => !isGap x && !isFlow x
  if name = [] then none
  else return (s.move (c.pass name.length)).emit (make (String.ofList name))

/-- Reads a tag, of which only those that begin with `!!` are known. -/
def readTag? (s : Scan) : Option Scan := do
  let s := s.markSpot.allow false
  let c := s.cursor.pass 1
  if c.next = '<' then
    let name := c.rest.takeWhile fun x => x != '>' && !isGap x
    let c := c.pass (name.length + 1)
    if isGap c.next then return (s.move c).emit (.tag none) else none
  else
    let name := c.rest.takeWhile fun x => !isGap x && !isFlow x
    let c := c.pass name.length
    if !isGap c.next && !s.inFlow then none
    else match name.findIdx? (· == '!') with
      | none => return (s.move c).emit (.tag none)
      | some 0 =>
        if name.length = 1 then none
        else return (s.move c).emit (.tag (some (String.ofList (name.drop 1))))
      | some _ => none

/-- Reads a plain scalar. -/
def readPlainScalar? (s : Scan) : Option Scan := do
  let s := (s.markSpot.allow false).leaveMargin
  let indent := s.indent + 1
  let c := s.cursor
  if s.inFlow ∧ c.column < indent then none
  else
    let (text, after) ← readPlain? s.inFlow indent (c.rest.length + 1) [] c
    if text = [] then none
    else return ((s.allow after.isFresh).move after).emit (.scalar true text)

def readQuotedScalar? (s : Scan) (single : Bool) : Option Scan := do
  let s := s.markSpot.allow false
  let c := s.cursor
  let (text, after) ← readQuoted? single s.indent (c.rest.length + 1) (c.pass 1)
  let after := (← after.passTail? true).cursor
  let mayFollow :=
    if s.inFlow then after.next ∈ [',', '\x7d', ']', ':']
    else after.next = ':' ∧ c.line = after.line
  if after.atLineEnd ∨ mayFollow then
    let s ← (s.move after).skip?
    return { s with joinsAt := s.cursor.index }.emit (.scalar false text)
  else none

def readBlockScalar? (s : Scan) (folds : Bool) : Option Scan := do
  let s := (s.markSpot.allow true).leaveMargin
  let (text, after) ← readBlock? folds s.indent (s.cursor.pass 1)
  return (s.move after).emit (.scalar false text)

/-- Reads the token at the cursor, which is at no end and no boundary of a document. -/
def readToken? (s : Scan) : Option Scan :=
  let c := s.cursor
  let x := c.next
  let next := c.peek 1
  if x = '[' then s.readOpening? .openList
  else if x = '\x7b' then s.readOpening? .openTable
  else if x = ']' then s.readClosing? .closeList
  else if x = '\x7d' then s.readClosing? .closeTable
  else if x = ',' then s.readComma?
  else if x = '-' ∧ isGap next then s.readDash?
  else if x = '?' ∧ isGap next then s.readKey?
  else if x = ':' ∧ isGap next then s.readValue?
  else if x = ':' ∧ s.inFlow ∧ (isFlow next ∨ c.index = s.joinsAt) then
    if c.index ≠ s.joinsAt ∧ (next = '[' ∨ next = '\x7b') then none else s.readValue?
  else if x = '*' then s.readName? .alias
  else if x = '&' then s.readName? .anchor
  else if x = '!' then s.readTag?
  else if x = '|' ∧ !s.inFlow then s.readBlockScalar? false
  else if x = '>' ∧ !s.inFlow then s.readBlockScalar? true
  else if x = '\'' then s.readQuotedScalar? true
  else if x = '"' then s.readQuotedScalar? false
  else if x = '%' ∨ x = '@' ∨ x.toNat = 0x60 then none
  else s.readPlainScalar?

/-- Reads the rest of a text, in at most a number of tokens. -/
def readRest? : Nat → Scan → Option (Array Token)
  | 0, _ => none
  | n + 1, s => do
    let s ← (← s.skip?).dropStale?
    let c := s.cursor
    let s := s.closeTo c.column
    if isEnd c.next then return (← s.dropSpot?).closeTo (-1) |>.tokens
    else if c.column = 0 ∧ c.next = '%' then readRest? n (← s.readDirective?)
    else if c.column = 0 ∧ c.hasMarks '-' then readRest? n (← s.readBoundary? .begins)
    else if c.column = 0 ∧ c.hasMarks '.' then
      let s ← (← s.readBoundary? .ends).skipTail?
      if s.cursor.atLineEnd then readRest? n s else none
    else if c.column < s.indent ∧ (!s.inFlow ∨ c.next ∉ [']', '\x7d', ',']) then none
    else readRest? n (← s.readToken?)

end Scan

/-- The tokens of a text. -/
def Token.ofText? (text : String) : Option (List Token) := do
  let cs := text.toList
  return (← Scan.readRest? (cs.length + 1) { cursor := { rest := cs } }).toList

end Rulebook.Yaml
