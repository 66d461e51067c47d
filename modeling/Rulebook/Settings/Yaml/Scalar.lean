import Rulebook.Number.Numeral
import Rulebook.Settings.Yaml.Cursor

/-!
# Scalars in YAML

A scalar is written plainly, between quotes, or as a block of lines below a mark. Line ends inside a
plain or a quoted scalar, and inside a folded block, are folded: one of them is a space, and of
several the first one is dropped. What is read here may go on over lines as long as they are
indented far enough.
-/

namespace Rulebook.Yaml

/-- What line ends in a row stand for. -/
def foldBreaks : Nat → List Char
  | 0 => []
  | 1 => [' ']
  | n + 2 => List.replicate (n + 1) '\n'

/-! ## Plain scalars -/

/-- May the character be part of a plain scalar, given the one after it? -/
def isPlainChar (inFlow : Bool) (c next : Char) : Bool :=
  !(c == ':' && (isGap next || (inFlow && isFlow next))) && !(inFlow && isFlow c)

/-- The part of a plain scalar that stands in front, without white space. -/
def plainPart (inFlow : Bool) : List Char → List Char
  | [] => []
  | c :: rest =>
    if isGap c || !isPlainChar inFlow c (rest.headD '\x00') then []
    else c :: plainPart inFlow rest

/-- Passes white space and line ends between two parts of a plain scalar, in at most a number of
steps, and gives what they stand for. -/
def passPlainGap? (indent : Int) : Nat → Nat → List Char → Cursor → Option (List Char × Cursor)
  | 0, _, _, _ => none
  | n + 1, breaks, spaces, c => do
    if isBreak c.next then passPlainGap? indent n (breaks + 1) [] c.passBreak
    else if !isSpace c.next then
      return (if breaks = 0 then spaces else foldBreaks breaks, c)
    else if breaks = 0 then passPlainGap? indent n 0 (spaces ++ [c.next]) (c.passSpace 1)
    else if c.column < indent ∧ c.next = '\t' then
      let passed ← c.passTail? true
      if passed.cursor.atLineEnd then passPlainGap? indent n breaks [] passed.cursor else none
    else passPlainGap? indent n breaks [] (c.passSpace 1)

/-- Reads the rest of a plain scalar, in at most a number of parts, after a gap. -/
def readPlain? (inFlow : Bool) (indent : Int) :
    Nat → List Char → Cursor → Option (List Char × Cursor)
  | 0, _, _ => none
  | n + 1, gap, c => do
    if (c.isFresh && c.atBoundary) || c.next = '#' then return ([], c)
    else if inFlow && c.next = '-' && isFlow (c.peek 1) then none
    else
      let part := plainPart inFlow c.rest
      let after := if part = [] then c else c.pass part.length
      let text := if part = [] then [] else gap ++ part
      if !isSpace after.next && !isBreak after.next then return (text, after)
      else
        let (gap, after) ← passPlainGap? indent (after.rest.length + 1) 0 [] after
        if !inFlow && after.column < indent then return (text, after)
        else
          let (more, after) ← readPlain? inFlow indent n gap after
          return (text ++ more, after)

/-! ## Quoted scalars -/

/-- The character that an escape of one letter stands for. -/
def escapedChar? : Char → Option Char
  | '0' => some '\x00'
  | 'a' => some '\x07'
  | 'b' => some '\x08'
  | 't' => some '\t'
  | '\t' => some '\t'
  | 'n' => some '\n'
  | 'v' => some '\x0b'
  | 'f' => some '\x0c'
  | 'r' => some '\r'
  | 'e' => some '\x1b'
  | ' ' => some ' '
  | '"' => some '"'
  | '/' => some '/'
  | '\\' => some '\\'
  | 'N' => some '\u0085'
  | '_' => some '\u00a0'
  | 'L' => some '\u2028'
  | 'P' => some '\u2029'
  | _ => none

/-- How many hexadecimal digits follow the letter of an escape. -/
def escapeWidth? : Char → Option Nat
  | 'x' => some 2
  | 'u' => some 4
  | 'U' => some 8
  | _ => none

/-- Reads an escape after its backslash. -/
def readEscape? (c : Cursor) : Option (Char × Cursor) := do
  match escapeWidth? c.next with
  | none => (escapedChar? c.next).map (·, c.pass 1)
  | some width =>
    let digits := (c.rest.drop 1).take width
    let n ← digits.foldlM (fun n d => (hexDigit? d).map (n * 16 + ·)) 0
    if digits.length = width ∧ n.isValidChar then
      some (Char.ofNat n, c.pass (width + 1))
    else none

/-- Reads the part of a quoted scalar that stands in front, without white space, in at most a number
of steps; says whether it ends by an escaped line end. -/
def readQuotedPart? (single : Bool) : Nat → Cursor → Option (List Char × Bool × Cursor)
  | 0, _ => none
  | n + 1, c => do
    let x := c.next
    if isGap x then return ([], false, c)
    else if single && x = '\'' && c.peek 1 = '\'' then
      let (text, ends, after) ← readQuotedPart? single n (c.pass 2)
      return ('\'' :: text, ends, after)
    else if x = (if single then '\'' else '"') then return ([], false, c)
    else if !single && x = '\\' then
      if isBreak (c.peek 1) then return ([], true, (c.pass 1).passBreak)
      else
        let (x, after) ← readEscape? (c.pass 1)
        let (text, ends, after) ← readQuotedPart? single n after
        return (x :: text, ends, after)
    else
      let (text, ends, after) ← readQuotedPart? single n (c.pass 1)
      return (x :: text, ends, after)

/-- Passes white space and line ends in a quoted scalar, in at most a number of steps; gives the
spaces before the first line end and the number of line ends. -/
def passQuotedGap? (indent : Int) (escaped : Bool) :
    Nat → Nat → List Char → Cursor → Option (Nat × List Char × Cursor)
  | 0, _, _, _ => none
  | n + 1, breaks, spaces, c =>
    if isBreak c.next then passQuotedGap? indent escaped n (breaks + 1) [] c.passBreak
    else if !isSpace c.next then some (breaks, spaces, c)
    else if !escaped && breaks = 0 then
      passQuotedGap? indent escaped n 0 (spaces ++ [c.next]) (c.passSpace 1)
    else if c.next = '\t' ∧ c.column < indent then none
    else passQuotedGap? indent escaped n breaks spaces (c.passSpace 1)

/-- Reads a quoted scalar after its opening quote, in at most a number of parts. -/
def readQuoted? (single : Bool) (indent : Int) : Nat → Cursor → Option (List Char × Cursor)
  | 0, _ => none
  | n + 1, c => do
    if (c.column = 0 ∧ c.atBoundary) ∨ isEnd c.next ∨ c.column < indent then none
    else
      let (part, escaped, after) ← readQuotedPart? single (c.rest.length + 1) c
      if after.next = (if single then '\'' else '"') then return (part, after.pass 1)
      else
        let (breaks, spaces, after) ←
          passQuotedGap? indent escaped (after.rest.length + 1) 0 [] after
        let gap := if escaped then List.replicate breaks '\n'
          else if breaks = 0 then spaces else foldBreaks breaks
        let (more, after) ← readQuoted? single indent n after
        return (part ++ gap ++ more, after)

/-! ## Blocks of lines -/

/-- What becomes of the line ends at the end of a block. -/
inductive Chomping where
  | strip
  | clip
  | keep
  deriving DecidableEq

/-- The mark of a block: how it ends, and how far it is indented if that is given. -/
def readBlockMark? (c : Cursor) : Option (Chomping × Nat × Cursor) := do
  let chomping (x : Char) : Option Chomping :=
    if x = '+' then some .keep else if x = '-' then some .strip else none
  let increment (c : Cursor) : Option (Nat × Cursor) :=
    if c.next = '0' then none
    else if c.next.isDigit then some (c.next.toNat - '0'.toNat, c.pass 1)
    else some (0, c)
  match chomping c.next with
  | some ending =>
    let (width, c) ← increment (c.pass 1)
    return (ending, width, c)
  | none =>
    let (width, c) ← increment c
    match (if width = 0 then none else chomping c.next) with
    | some ending => return (ending, width, c.pass 1)
    | none => return (.clip, width, c)

/-- Passes the indentation of a block and its empty lines, in at most a number of lines. -/
def passIndent (indent : Nat) : Nat → Nat → Cursor → Nat × Cursor
  | 0, breaks, c => (breaks, c)
  | n + 1, breaks, c =>
    let spaces := (c.rest.take (indent - c.column)).takeWhile (· == ' ')
    let c := c.passSpace spaces.length
    if isBreak c.next then passIndent indent n (breaks + 1) c.passBreak else (breaks, c)

/-- Passes the empty lines in front of a block and the spaces of its first line, in at most a number
of lines; gives the deepest column. -/
def passFirstIndent : Nat → Nat → Nat → Cursor → Nat × Nat × Cursor
  | 0, deepest, breaks, c => (deepest, breaks, c)
  | n + 1, deepest, breaks, c =>
    let c := c.passSpace (c.rest.takeWhile (· == ' ')).length
    let deepest := max deepest c.column
    if isBreak c.next then passFirstIndent n deepest (breaks + 1) c.passBreak
    else (deepest, breaks, c)

/-- What a block has shown so far. -/
structure Block where
  text : List Char := []
  /-- Is a line end pending after the last line? -/
  pending : Bool := false
  /-- How many empty lines are pending. -/
  breaks : Nat
  /-- Did the last line begin with white space? -/
  wasSpaced : Bool := false
  cursor : Cursor

/-- The text of the pending line end, which is not folded. -/
def Block.pendingText (b : Block) : List Char := if b.pending then ['\n'] else []

/-- Reads the lines of a block, of which there are at most a number. -/
def readBlockLines (folds : Bool) (indent : Nat) : Nat → Block → Block
  | 0, b => b
  | n + 1, b =>
    let c := b.cursor
    if c.column ≠ indent ∨ isEnd c.next ∨ (indent = 0 ∧ c.hasMarks '.') then b
    else
      let spaced := isSpace c.next
      let gap :=
        if folds && b.pending && !b.wasSpaced && !spaced then foldBreaks (b.breaks + 1)
        else b.pendingText ++ List.replicate b.breaks '\n'
      let line := c.rest.takeWhile fun x => !(isBreak x || isEnd x)
      let c := c.pass line.length
      let text := b.text ++ gap ++ line
      if isEnd c.next then { text, breaks := 0, wasSpaced := spaced, cursor := c }
      else
        let (breaks, c) := passIndent indent c.rest.length 0 c.passBreak
        readBlockLines folds indent n
          { text, pending := true, breaks, wasSpaced := spaced, cursor := c }

/-- Reads a block of lines after the character that announces it, below a given indentation. -/
def readBlock? (folds : Bool) (outer : Int) (c : Cursor) : Option (List Char × Cursor) := do
  let startLine := c.line
  let (ending, width, c) ← readBlockMark? c
  let passed ← c.passTail? true
  let c := passed.cursor
  if !c.atLineEnd then none
  else
    let c := if isBreak c.next then c.passBreak else c
    if c.next = '\t' then none
    else
      let (indent, breaks, c) :=
        if 0 < width then
          let indent := if 0 ≤ outer then outer.toNat + width else width
          let (breaks, c) := passIndent indent (c.rest.length + 1) 0 c
          (indent, breaks, c)
        else
          let (deepest, breaks, c) := passFirstIndent (c.rest.length + 1) 0 0 c
          let indent := max deepest (outer + 1).toNat
          (if 0 < outer then max indent 1 else indent, breaks, c)
      if isEnd c.next then
        if ending = .strip ∨ c.line = startLine then some ([], c)
        else if ending = .keep ∧ 0 < breaks then some (List.replicate breaks '\n', c)
        else some (['\n'], c)
      else if c.column < indent ∧ outer < c.column then none
      else
        let b := readBlockLines folds indent (c.rest.length + 1) { breaks, cursor := c }
        let last := if ending = .strip then [] else b.pendingText ++
          (if isEnd b.cursor.next && max indent 1 ≤ b.cursor.column then ['\n'] else [])
        let more := if ending = .keep then List.replicate b.breaks '\n' else []
        some (b.text ++ last ++ more, b.cursor)

end Rulebook.Yaml
