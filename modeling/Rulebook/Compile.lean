import Rulebook.Condition
import Rulebook.Outline

/-!
# Compiling definitions

An outline compiles to a condition. A matcher with one value compares the value of its key with
it, one with several values holds if one of the comparisons does, and `ex` and `nx` only check the
key. The first fault found is reported, a node's own faults before those of its members and
members from left to right, together with the place where it was found.
-/

namespace Rulebook

/-- What can be wrong with a condition's definition. -/
inductive ConditionFault where
  | unsupportedKind (kind : String)
  | malformedBody (e : Json.ShapeError)
  | unknownConnective (logic : String)
  | emptyGroup
  | emptyKey
  | unknownMatcher (matcher : String)
  | noValues (matcher : String)

/-- A fault and its place, given by the positions of the members that lead to it. -/
structure LocatedFault where
  path : List Nat
  fault : ConditionFault

namespace LocatedFault

/-- The place in writing. -/
def pathText (path : List Nat) : String :=
  path.foldl (fun s i => s ++ s!".conditions[{i}]") "condition"

end LocatedFault

/-- The operator that a matcher stands for. -/
def matcherOperator? : String → Option Operator
  | "eq" => some .equals
  | "ne" => some .notEquals
  | "gt" => some .greaterThan
  | "ge" => some .greaterThanOrEquals
  | "lt" => some .lessThan
  | "le" => some .lessThanOrEquals
  | "co" => some .contains
  | "nc" => some .notContains
  | "sw" => some .startsWith
  | "ew" => some .endsWith
  | "ex" => some .exists
  | "nx" => some .notExists
  | _ => none

/-- The condition of a matcher whose operator and key are known. -/
def MatcherDefinition.condition (m : MatcherDefinition) (o : Operator) :
    Except ConditionFault Condition :=
  let key : Term := .placeholder (.parse m.key)
  let compared (v : Value) : Condition := .comparison key o.name (.literal v)
  if o.isUnary then .ok (.check o.name key)
  else match m.values with
    | [] => .error (.noValues m.matcher)
    | [v] => .ok (compared v)
    | values => .ok (.any (values.map compared))

def MatcherDefinition.compile (m : MatcherDefinition) : Except ConditionFault Condition :=
  if m.key = "" then .error .emptyKey
  else match matcherOperator? m.matcher with
    | none => .error (.unknownMatcher m.matcher)
    | some o => m.condition o

namespace Outline

mutual

/-- Compiles the outline at a place. -/
def compile (path : List Nat) : Outline → Except LocatedFault Condition
  | .unsupported kind => .error ⟨path, .unsupportedKind kind⟩
  | .malformed e => .error ⟨path, .malformedBody e⟩
  | .matcher m => m.compile.mapError (LocatedFault.mk path)
  | .group logic members =>
    match Connective.ofName? logic with
    | none => .error ⟨path, .unknownConnective logic⟩
    | some c =>
      if members.isEmpty then .error ⟨path, .emptyGroup⟩
      else (compileMembers path 0 members).map (.group c.name)

/-- Compiles the members of the group at a place, from a position on. -/
def compileMembers (path : List Nat) (i : Nat) : List Outline → Except LocatedFault (List Condition)
  | [] => .ok []
  | o :: rest => do
    return (← compile (path ++ [i]) o) :: (← compileMembers path (i + 1) rest)

end

end Outline

/-- Compiles a condition's definition. -/
def ConditionDefinition.compile (d : ConditionDefinition) : Except LocatedFault Condition :=
  (Outline.ofDefinition d).compile []

end Rulebook
