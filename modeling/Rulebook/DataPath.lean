import Rulebook.Json.Value
import Rulebook.Number.Numeral

/-!
# Paths into data

A path leads from the root of a value downward. Its steps are the texts between its points; a
step names a member of an object or, written as a number, an element of an array. A member of the
root whose key is the whole path comes before anything that the steps lead to.
-/

namespace Rulebook

/-- The steps of a path. -/
def pathSteps (path : String) : List String := (path.toList.splitOn '.').map String.ofList

namespace Value

/-- The child that one step leads to. -/
def child? (step : String) : Value → Option Value
  | .obj members => member? step members
  | .arr elements => (readIndex? step.toList).bind fun i => elements[i]?
  | _ => none

/-- The value that a list of steps leads to. -/
def follow? (v : Value) (steps : List String) : Option Value :=
  steps.foldlM (fun v step => v.child? step) v

/-- The member of the root with this key. -/
def rootMember? (key : String) : Value → Option Value
  | .obj members => member? key members
  | _ => none

/-- The value at a path. -/
def find? (data : Value) (path : String) : Option Value :=
  (data.rootMember? path).or (data.follow? (pathSteps path))

end Value
end Rulebook
