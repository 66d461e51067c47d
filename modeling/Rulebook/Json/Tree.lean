import Rulebook.Json.Lexeme

/-!
# What a JSON text says, and where it breaks

`Document.ofText` reads any text. The result is a tree that follows the text from left to right,
with all members as they are written, up to the first place where the text is no JSON; from there
on nothing is in the tree, and the containers that are open at that place stay without an end. A
reader that walks the tree from left to right therefore meets whatever is wrong first in the text
first, be it the shape of a value or the text itself.

The containers open around the place that is being read are kept in a list, the innermost first.
-/

namespace Rulebook.Json

/-- How an object ends. -/
inductive Ending where
  | closed
  | broken (b : Break)
  /-- Something else than a string stands where a key must. -/
  | wrongKey (l : Lexeme)
  deriving DecidableEq

/-- Where the text breaks at the end of an object, if it does. -/
def Ending.break? : Ending → Option Break
  | .closed => none
  | .broken b => some b
  | .wrongKey _ => some .malformed

/-- What a text says, up to where it breaks. The `ending` of an array is `none` when it is closed.
A number or a word that is not written to its end has a node of its own, since readers differ in
what they make of it; `broken` stands where no value starts. -/
inductive Tree where
  | null
  | bool (b : Bool)
  | number (n : NumberText)
  | string (s : StringText)
  | array (items : List Tree) (ending : Option Break)
  | object (members : List (StringText × Tree)) (ending : Ending)
  | brokenNumber (b : Break)
  | brokenWord (b : Break)
  | broken (b : Break)

/-- The tree that a lexeme begins where a value must stand. -/
def Tree.begun : Lexeme → Tree
  | .openArray => .array [] (some .ends)
  | .openObject => .object [] (.broken .ends)
  | .null => .null
  | .bool b => .bool b
  | .number n => .number n
  | .string s => .string s
  | .brokenNumber b => .brokenNumber b
  | .brokenWord b => .brokenWord b
  | .broken b => .broken b
  | .closeArray | .closeObject | .comma | .colon => .broken .malformed

/-- A container that waits for the value under way; what it holds already is listed backwards. -/
inductive Waiting where
  | element (before : List Tree)
  | member (before : List (StringText × Tree)) (key : StringText)

/-- What may come next, with the contents so far, backwards, of the container that expects it. -/
inductive Expected where
  | value
  | elementOrEnd
  | commaInArray (before : List Tree)
  | keyOrEnd
  | key (before : List (StringText × Tree))
  | colon (before : List (StringText × Tree)) (key : StringText)
  | commaInObject (before : List (StringText × Tree))

/-- The state of reading: under way, or done with a tree, after which a text may be left over. -/
inductive Reading where
  | inside (next : Expected) (outer : List Waiting)
  | done (t : Tree) (leftOver : Bool)
  | stopped (t : Tree)

namespace Reading

/-- Hands a finished tree to the container that waits for it. -/
def deliver (t : Tree) : List Waiting → Reading
  | [] => .done t false
  | .element before :: outer => .inside (.commaInArray (t :: before)) outer
  | .member before key :: outer => .inside (.commaInObject ((key, t) :: before)) outer

/-- The whole tree when the text breaks inside `t`. -/
def enclose (t : Tree) : List Waiting → Tree
  | [] => t
  | .element before :: outer => enclose (.array (before.reverse ++ [t]) (some .ends)) outer
  | .member before key :: outer =>
    enclose (.object (before.reverse ++ [(key, t)]) (.broken .ends)) outer

/-- Reads a lexeme where a value must stand. -/
def stepValue (outer : List Waiting) (l : Lexeme) : Reading :=
  match l with
  | .openArray => .inside .elementOrEnd outer
  | .openObject => .inside .keyOrEnd outer
  | .closeArray | .closeObject | .comma | .colon => .stopped (enclose (.begun l) outer)
  | l => if l.isBroken then .stopped (enclose (.begun l) outer) else deliver (.begun l) outer

/-- Reads a lexeme where a key must stand. -/
def stepKey (before : List (StringText × Tree)) (outer : List Waiting) : Lexeme → Reading
  | .string s =>
    if s.broken.isSome then
      .stopped (enclose (.object (before.reverse ++ [(s, .null)]) (.broken .ends)) outer)
    else .inside (.colon before s) outer
  | l => .stopped (enclose (.object before.reverse (.wrongKey l)) outer)

def step : Reading → Lexeme → Reading
  | .inside .value outer, l => stepValue outer l
  | .inside .elementOrEnd outer, .closeArray => deliver (.array [] none) outer
  | .inside .elementOrEnd outer, l => stepValue (.element [] :: outer) l
  | .inside (.commaInArray before) outer, .comma => .inside .value (.element before :: outer)
  | .inside (.commaInArray before) outer, .closeArray =>
    deliver (.array before.reverse none) outer
  | .inside (.commaInArray before) outer, _ =>
    .stopped (enclose (.array before.reverse (some .malformed)) outer)
  | .inside .keyOrEnd outer, .closeObject => deliver (.object [] .closed) outer
  | .inside .keyOrEnd outer, l => stepKey [] outer l
  | .inside (.key before) outer, l => stepKey before outer l
  | .inside (.colon before key) outer, .colon => .inside .value (.member before key :: outer)
  | .inside (.colon before key) outer, _ =>
    .stopped (enclose (.broken .malformed) (.member before key :: outer))
  | .inside (.commaInObject before) outer, .comma => .inside (.key before) outer
  | .inside (.commaInObject before) outer, .closeObject =>
    deliver (.object before.reverse .closed) outer
  | .inside (.commaInObject before) outer, _ =>
    .stopped (enclose (.object before.reverse (.broken .malformed)) outer)
  | .done t _, _ => .done t true
  | .stopped t, _ => .stopped t

/-- The tree when the text ends, and whether something stood after it. -/
def finish : Reading → Tree × Bool
  | .inside .value outer => (enclose (.broken .ends) outer, false)
  | .inside .elementOrEnd outer => (enclose (.array [] (some .ends)) outer, false)
  | .inside (.commaInArray before) outer =>
    (enclose (.array before.reverse (some .ends)) outer, false)
  | .inside .keyOrEnd outer => (enclose (.object [] (.broken .ends)) outer, false)
  | .inside (.key before) outer =>
    (enclose (.object (before.reverse ++ [(⟨[], some .ends⟩, .null)]) (.broken .ends)) outer, false)
  | .inside (.colon before key) outer =>
    (enclose (.broken .ends) (.member before key :: outer), false)
  | .inside (.commaInObject before) outer =>
    (enclose (.object before.reverse (.broken .ends)) outer, false)
  | .done t leftOver => (t, leftOver)
  | .stopped t => (t, false)

end Reading

/-- What a text says: its first value, and whether anything but white space follows that. -/
structure Document where
  tree : Tree
  leftOver : Bool

/-- The tree of a list of lexemes. -/
def Document.ofLexemes (ls : List Lexeme) : Document :=
  let (tree, leftOver) := (ls.foldl Reading.step (.inside .value [])).finish
  ⟨tree, leftOver⟩

def Document.ofText (text : String) : Document := .ofLexemes (lex text.toList)

end Rulebook.Json
