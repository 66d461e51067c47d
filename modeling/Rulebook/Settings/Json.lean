import Rulebook.Json.Reader
import Rulebook.Settings.Setting

/-!
# Settings in JSON

A JSON text gives settings when it is an object. A whole number beyond 64 bits with a sign becomes
the nearest number of binary64.
-/

namespace Rulebook.Setting

def ofNumber (n : Number) : Setting :=
  match n with
  | .whole i _ => if i < 2 ^ 63 then .whole i else .real (.finite n.toBinary64)
  | .real x => .real (.finite x)

mutual

def ofValue : Value → Setting
  | .null => .null
  | .bool b => .flag b
  | .num n => ofNumber n
  | .str s => .text s
  | .arr elements => .list (ofElements elements)
  | .obj members => .table (ofMembers members)

def ofElements : List Value → List Setting
  | [] => []
  | v :: rest => ofValue v :: ofElements rest

def ofMembers : List (String × Value) → List (String × Setting)
  | [] => []
  | (key, v) :: rest => (key, ofValue v) :: ofMembers rest

end

/-- The settings that a JSON text gives. -/
def readJson? (text : String) : Option (List (String × Setting)) :=
  match Value.ofText text with
  | .ok (.obj members) => some (ofMembers members)
  | _ => none

end Rulebook.Setting
