import Rulebook.Json.Lexeme
import Rulebook.Json.Value
import Rulebook.Number.Shortest
import Rulebook.Text.Quoted

/-!
# Values of the wrong shape

What can be wrong with a JSON value that is to be read as a record, a list, a text or a flag, and
the message for it.
-/

namespace Rulebook.Json

/-- What stands in the place of what was wanted. -/
inductive Found where
  | whole (i : Int)
  | real (x : Binary64)
  | bool (b : Bool)
  | string (s : String)
  | null
  | array
  | object

/-- What is wanted. -/
inductive Wanted where
  | string
  | flag
  | list
  | nothing
  /-- The name of a variant. -/
  | variant
  | record (name : String)

inductive ShapeError where
  | missingField (field : String)
  | duplicateField (field : String)
  | wrongType (found : Found) (wanted : Wanted)
  /-- A record given as a list, which ends before a field that must be there. -/
  | tooShort (length : Nat) (record : String) (fields : Nat)
  /-- A record given as a list that goes on after the last field. -/
  | tooLong (length : Nat)
  /-- A name that is neither of the two known ones. -/
  | unknownVariant (given first second : String)

def Found.ofNumber : Number → Found
  | .whole i _ => .whole i
  | .real x => .real x

def Found.ofValue : Value → Found
  | .null => .null
  | .bool b => .bool b
  | .num n => .ofNumber n
  | .str s => .string s
  | .arr _ => .array
  | .obj _ => .object

/-- A name between backquotes. -/
def backquoted (s : String) : String := "`" ++ s ++ "`"

def Found.text : Found → String
  | .whole i => "integer " ++ backquoted (toString i)
  | .real x => "floating point " ++ backquoted (String.ofList x.text)
  | .bool b => "boolean " ++ backquoted (if b then "true" else "false")
  | .string s => "string " ++ Text.quoted s
  | .null => "null"
  | .array => "sequence"
  | .object => "map"

def Wanted.text : Wanted → String
  | .string => "a string"
  | .flag => "a boolean"
  | .list => "a sequence"
  | .nothing => "unit"
  | .variant => "variant identifier"
  | .record name => "struct " ++ name

namespace ShapeError

def message : ShapeError → String
  | .missingField field => "missing field " ++ backquoted field
  | .duplicateField field => "duplicate field " ++ backquoted field
  | .wrongType found wanted => "invalid type: " ++ found.text ++ ", expected " ++ wanted.text
  | .tooShort length record fields =>
    s!"invalid length {length}, expected struct {record} with {fields} elements"
  | .tooLong length => s!"invalid length {length}, expected fewer elements in array"
  | .unknownVariant given first second =>
    "unknown variant " ++ backquoted given ++ ", expected " ++ backquoted first ++ " or " ++
      backquoted second

end ShapeError

/-- Why a text does not read as what is wanted: it is no JSON, or JSON of another shape. -/
inductive Fault where
  | broken (b : Break)
  | shape (e : ShapeError)

end Rulebook.Json
