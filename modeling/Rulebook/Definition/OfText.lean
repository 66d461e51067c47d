import Rulebook.Definition.Basic
import Rulebook.Json.Reader

/-!
# Definitions from texts

A rule's definition is read from a text in one pass, so that the first thing wrong in the text
decides what is reported. A field may be given once. The forms are those of definitions from
values, but a record given as a list that goes on after its last field is no text of a record.
-/

namespace Rulebook

open Json (Break Fault StringText Tree)
open Json.Tree (plain field next endOfFields require)

namespace ConditionDefinition

/-- The fields given so far. -/
structure Given where
  kind : Option String := none
  body : Option Value := none

def Given.read (depth : Nat) (g : Given) : StringText × Tree → Except Fault Given
  | (key, t) => do
    match ← plain key.text with
    | "type" => return { g with kind := ← field "type" g.kind t.text }
    | "definition" =>
      return { g with body := ← field "definition" g.body (plain (t.toValue depth)) }
    | _ => do
      t.skip
      return g

/-- Reads a condition's definition at a depth of open containers. -/
def ofTree (depth : Nat) : Tree → Except Fault ConditionDefinition
  | .object members ending => do
    let depth ← plain (Json.enter depth)
    let g ← members.foldlM (Given.read depth) {}
    plain (Json.close ending.break?)
    return ⟨← require (.missingField "type") g.kind, g.body.getD .null⟩
  | .array items ending => do
    let depth ← plain (Json.enter depth)
    let (kind, rest) ← next ending items Tree.text
    let kind ← require (.tooShort 0 recordName 2) kind
    let (body, rest) ← next ending rest fun t => plain (t.toValue depth)
    endOfFields ending rest
    return ⟨kind, body.getD .null⟩
  | t => t.refuse (.record recordName)

end ConditionDefinition

namespace RuleDefinition

/-- The fields given so far. -/
structure Given where
  id : Option String := none
  name : Option String := none
  condition : Option ConditionDefinition := none
  consequences : Option (List Value) := none

def Given.read (depth : Nat) (g : Given) : StringText × Tree → Except Fault Given
  | (key, t) => do
    match ← plain key.text with
    | "id" => return { g with id := ← field "id" g.id t.text }
    | "name" => return { g with name := ← field "name" g.name t.text }
    | "condition" =>
      return { g with
        condition := ← field "condition" g.condition (ConditionDefinition.ofTree depth t) }
    | "consequences" =>
      return { g with consequences := ← field "consequences" g.consequences (t.values depth) }
    | _ => do
      t.skip
      return g

/-- Reads a rule's definition; one without an identifier takes the fresh one. -/
def ofTree (freshId : String) : Tree → Except Fault RuleDefinition
  | .object members ending => do
    let depth ← plain (Json.enter 0)
    let g ← members.foldlM (Given.read depth) {}
    plain (Json.close ending.break?)
    let condition ← require (.missingField "condition") g.condition
    return ⟨g.id.getD freshId, g.name.getD "", condition, g.consequences.getD []⟩
  | .array items ending => do
    let depth ← plain (Json.enter 0)
    let (id, rest) ← next ending items Tree.text
    let (name, rest) ← next ending rest Tree.text
    let (condition, rest) ← next ending rest (ConditionDefinition.ofTree depth)
    let condition ← require (.tooShort 2 recordName 4) condition
    let (consequences, rest) ← next ending rest fun t => t.values depth
    endOfFields ending rest
    return ⟨id.getD freshId, name.getD "", condition, consequences.getD []⟩
  | t => t.refuse (.record recordName)

def ofText (freshId text : String) : Except Fault RuleDefinition :=
  (Json.Document.ofText text).read (ofTree freshId)

end RuleDefinition
end Rulebook
