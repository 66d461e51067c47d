import Rulebook.Definition.OfValue

/-!
# Definitions read all the way down

A condition's definition keeps its body as a JSON value. Its `Outline` is the same definition with
every body read, as far as it can be: what cannot be read stands where it is, as an outline of its
own. Reading never fails, so what is wrong in a definition can be looked for in any order after.
-/

namespace Rulebook

inductive Outline where
  | group (logic : String) (members : List Outline)
  | matcher (m : MatcherDefinition)
  /-- A body that does not have the shape its kind asks for. -/
  | malformed (e : Json.ShapeError)
  /-- A kind that is neither of the two known ones. -/
  | unsupported (kind : String)

namespace Outline

def ofDefinition (d : ConditionDefinition) : Outline :=
  if d.kind = ConditionDefinition.groupKind then
    match h : GroupDefinition.ofValue d.body with
    | .error e => .malformed e
    | .ok g => .group g.logic (g.conditions.attach.map fun ⟨c, hc⟩ =>
        have := GroupDefinition.sizeOf_body_lt h hc
        ofDefinition c)
  else if d.kind = ConditionDefinition.matcherKind then
    match MatcherDefinition.ofValue d.body with
    | .error e => .malformed e
    | .ok m => .matcher m
  else .unsupported d.kind
termination_by sizeOf d.body

/-- A group whose body reads is the group of the outlines of its conditions. -/
theorem ofDefinition_group {d : ConditionDefinition} {g : GroupDefinition}
    (hk : d.kind = ConditionDefinition.groupKind) (hg : GroupDefinition.ofValue d.body = .ok g) :
    ofDefinition d = .group g.logic (g.conditions.map ofDefinition) := by
  rw [ofDefinition, if_pos hk]
  split
  · next e he => rw [hg] at he; cases he
  · next g' hg' =>
    rw [hg] at hg'
    cases hg'
    simp

end Outline
end Rulebook
