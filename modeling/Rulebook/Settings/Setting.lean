import Rulebook.Number.Shortest
import Rulebook.Text.Lowercase

/-!
# Settings as they are written

A setting is nothing, a flag, a number, a text, a list or a table of settings by key. It is wanted
as a text or as a flag, and converted if it is of another kind.
-/

namespace Rulebook

/-- May the character stand in a key that is written without quotes? -/
def isKeyChar (c : Char) : Bool := c.isAlphanum || c == '_' || c == '-'

inductive Setting where
  | null
  | flag (b : Bool)
  | whole (i : Int)
  | real (n : Numeral)
  | text (s : String)
  | list (elements : List Setting)
  | table (entries : List (String × Setting))

namespace Setting

instance : Inhabited Setting := ⟨.null⟩

/-- The entries of a table; anything else has none. -/
def entries : Setting → List (String × Setting)
  | .table entries => entries
  | _ => []

/-- The elements of a list; anything else has none. -/
def elements : Setting → List Setting
  | .list elements => elements
  | _ => []

/-- Gives a key a setting. -/
def update (key : String) (s : Setting) : List (String × Setting) → List (String × Setting)
  | [] => [(key, s)]
  | (k, old) :: rest => if k = key then (k, s) :: rest else (k, old) :: update key s rest

/-- The setting of a key in a table. -/
def get? (s : Setting) (key : String) : Option Setting := s.entries.lookup key

/-- The setting as a text. -/
def asText? : Setting → Option String
  | .text s => some s
  | .flag b => some (if b then "true" else "false")
  | .whole i => some (toString i)
  | .real n => some (String.ofList n.plainText)
  | .null | .list _ | .table _ => none

/-- The setting as a flag: a number that is not zero, and some words in any case. -/
def asFlag? : Setting → Option Bool
  | .flag b => some b
  | .whole i => some (i != 0)
  | .real (.finite x) => some (x.scaled != 0)
  | .real _ => some true
  | .text s =>
    let word := String.ofList (Text.lowercase s.toList)
    if word ∈ ["1", "true", "on", "yes"] then some true
    else if word ∈ ["0", "false", "off", "no"] then some false
    else none
  | .null | .list _ | .table _ => none

end Setting
end Rulebook
