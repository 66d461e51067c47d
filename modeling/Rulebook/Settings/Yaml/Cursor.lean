/-!
# Places in a YAML text

A cursor is a place in a text: what follows it, its line and column, and whether only white space
stands before it on its line. White space is spaces and tabs; a line ends by a line feed, by a
carriage return or by the two together. The end of the text reads as the character NUL.
-/

namespace Rulebook.Yaml

def isSpace (c : Char) : Bool := c == ' ' || c == '\t'

/-- A character of a line end. -/
def isBreak (c : Char) : Bool := c == '\n' || c == '\r'

def isEnd (c : Char) : Bool := c == '\x00'

/-- Does a part of a line end before the character? -/
def isGap (c : Char) : Bool := isSpace c || isBreak c || isEnd c

/-- A character that bounds the parts of a collection in brackets. -/
def isFlow (c : Char) : Bool :=
  c == ',' || c == '[' || c == ']' || c == '\x7b' || c == '\x7d'

structure Cursor where
  rest : List Char
  line : Nat := 0
  column : Nat := 0
  /-- How many characters have been passed. -/
  index : Nat := 0
  /-- Does only white space stand before this place on its line? -/
  isFresh : Bool := true

namespace Cursor

/-- The character some places further on. -/
def peek (c : Cursor) (n : Nat) : Char := c.rest[n]?.getD '\x00'

/-- The character at the cursor. -/
def next (c : Cursor) : Char := c.peek 0

/-- Is the rest of the line empty? -/
def atLineEnd (c : Cursor) : Bool := isBreak c.next || isEnd c.next

/-- Passes white space of a length. -/
def passSpace (c : Cursor) (n : Nat) : Cursor :=
  { c with rest := c.rest.drop n, column := c.column + n, index := c.index + n }

/-- Passes a number of characters that are not all white space. -/
def pass (c : Cursor) (n : Nat) : Cursor := { c.passSpace n with isFresh := false }

/-- Passes a line end. -/
def passBreak (c : Cursor) : Cursor :=
  let width := if c.next = '\r' ∧ c.peek 1 = '\n' then 2 else 1
  { rest := c.rest.drop width, line := c.line + 1, column := 0, index := c.index + width }

/-- Passes the rest of the line. -/
def passLine (c : Cursor) : Cursor :=
  c.pass (c.rest.takeWhile fun x => !(isBreak x || isEnd x)).length

/-- Does a line of three equal marks stand here, which bounds a document? -/
def hasMarks (c : Cursor) (mark : Char) : Bool :=
  c.next == mark && c.peek 1 == mark && c.peek 2 == mark && isGap (c.peek 3)

/-- Does a document begin or end here? -/
def atBoundary (c : Cursor) : Bool := c.hasMarks '-' || c.hasMarks '.'

/-- What was passed at the end of a line. -/
structure Passed where
  cursor : Cursor
  hasSpace : Bool
  hasTab : Bool

/-- Passes white space, with or without tabs, and a comment, before which white space stands. -/
def passTail? (c : Cursor) (tabs : Bool) : Option Passed :=
  let space := c.rest.takeWhile fun x => x == ' ' || (tabs && x == '\t')
  let after := c.passSpace space.length
  let passed : Passed := ⟨after, space.contains ' ', space.contains '\t'⟩
  if after.next = '#' then
    if space = [] then none else some { passed with cursor := after.passLine }
  else some passed

end Cursor
end Rulebook.Yaml
