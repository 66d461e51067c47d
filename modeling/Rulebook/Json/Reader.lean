import Rulebook.Json.Numbers
import Rulebook.Json.Shape
import Rulebook.Json.Tree

/-!
# Reading values and parts of records from a text

All readers here walk a `Tree` from left to right and stop at the first thing that is wrong.
Containers may be nested 127 deep; only a part that is skipped may be deeper.
-/

namespace Rulebook.Json

/-- How many containers may be open at once. -/
def depthLimit : Nat := 127

/-- The depth inside a container that is entered at a depth. -/
def enter (depth : Nat) : Except Break Nat :=
  if depth < depthLimit then .ok (depth + 1) else .error .malformed

/-- The end of a container that has been read. -/
def close : Option Break → Except Break Unit
  | none => .ok ()
  | some b => .error b

namespace Tree

mutual

/-- The value that the tree says, read at a depth of open containers. -/
def toValue (depth : Nat) : Tree → Except Break Value
  | .null => .ok .null
  | .bool b => .ok (.bool b)
  | .number n => match n.number? with
    | some n => .ok (.num n)
    | none => .error .malformed
  | .string s => s.text.map .str
  | .array items ending => do
    let values ← toValues (← enter depth) items
    close ending
    return .arr values
  | .object members ending => do
    let members ← toMembers (← enter depth) members
    close ending.break?
    return .ofMembers members
  | .brokenNumber b | .brokenWord b | .broken b => .error b

def toValues (depth : Nat) : List Tree → Except Break (List Value)
  | [] => .ok []
  | t :: rest => do return (← toValue depth t) :: (← toValues depth rest)

def toMembers (depth : Nat) : List (StringText × Tree) → Except Break (List (String × Value))
  | [] => .ok []
  | (key, t) :: rest => do
    let key ← key.text
    return (key, ← toValue depth t) :: (← toMembers depth rest)

end

mutual

/-- Where a part breaks that is only skipped: its strings may hold lone surrogates, its numbers
may be of any size, and a number cut short counts as malformed. -/
def firstBreak : Tree → Option Break
  | .string s => s.broken
  | .array items ending => firstBreakItem items <|> ending
  | .object members ending => firstBreakMember members <|> ending.break?
  | .brokenNumber _ => some .malformed
  | .brokenWord b | .broken b => some b
  | .null | .bool _ | .number _ => none

def firstBreakItem : List Tree → Option Break
  | [] => none
  | t :: rest => firstBreak t <|> firstBreakItem rest

def firstBreakMember : List (StringText × Tree) → Option Break
  | [] => none
  | (key, t) :: rest => key.broken <|> firstBreak t <|> firstBreakMember rest

end

/-- An action of plain reading, as one that may also find a wrong shape. -/
def plain {α : Type} (x : Except Break α) : Except Fault α := x.mapError .broken

/-- What stands here; a scalar is read to the end for it, a container only entered. -/
def found : Tree → Except Fault Found
  | .null => .ok .null
  | .bool b => .ok (.bool b)
  | .number n => match n.number? with
    | some n => .ok (.ofNumber n)
    | none => .error (.broken .malformed)
  | .string s => plain (s.text.map .string)
  | .array _ _ => .ok .array
  | .object _ _ => .ok .object
  | .brokenNumber b | .brokenWord b | .broken b => .error (.broken b)

/-- Refuses what stands here. -/
def refuse {α : Type} (wanted : Wanted) (t : Tree) : Except Fault α := do
  throw (.shape (.wrongType (← t.found) wanted))

def text : Tree → Except Fault String
  | .string s => plain s.text
  | t => t.refuse .string

def flag : Tree → Except Fault Bool
  | .bool b => .ok b
  | t => t.refuse .flag

/-- A list of values. -/
def values (depth : Nat) : Tree → Except Fault (List Value)
  | .array items ending => plain do
    let values ← toValues (← enter depth) items
    close ending
    return values
  | t => t.refuse .list

/-- Skips the value of an unknown field. -/
def skip (t : Tree) : Except Fault Unit := plain (close t.firstBreak)

/-- Reads a field that may be given once. -/
def field {α : Type} (name : String) (given : Option α) (read : Except Fault α) :
    Except Fault (Option α) :=
  if given.isSome then .error (.shape (.duplicateField name)) else read.map some

/-- Reads the next element of a list, if there is one, and gives the elements after it. -/
def next {α : Type} (ending : Option Break) (items : List Tree)
    (read : Tree → Except Fault α) : Except Fault (Option α × List Tree) :=
  match items with
  | [] => do
    plain (close ending)
    return (none, [])
  | t :: rest => do return (some (← read t), rest)

/-- The end of a record after its last field, where nothing more may stand. -/
def endOfFields {α : Type} (ending : Option Break) (rest : List α) : Except Fault Unit :=
  if rest.isEmpty then plain (close ending) else .error (.broken .malformed)

/-- A field that must be there. -/
def require {α : Type} (missing : ShapeError) : Option α → Except Fault α
  | none => .error (.shape missing)
  | some a => .ok a

end Tree

/-- What a whole text says, by a reader of its tree. -/
def Document.read {α : Type} (d : Document) (reader : Tree → Except Fault α) : Except Fault α := do
  let a ← reader d.tree
  if d.leftOver then throw (.broken .malformed) else return a

end Rulebook.Json

namespace Rulebook

/-- The value that a text says. -/
def Value.ofText (text : String) : Except Json.Break Value := do
  let d := Json.Document.ofText text
  let v ← d.tree.toValue 0
  if d.leftOver then throw .malformed else return v

end Rulebook
