import Rulebook.Definition.OfValue

/-!
# Generated identifiers

A value that gives a definition without an identifier is read with one made for it. Nothing else
that is read depends on it, nor does whether the value reads (`ofValue_eq_map`).
-/

namespace Rulebook

theorem Value.isSome_of_readField {α : Type} {given : Option Value}
    {read : Value → Except Json.ShapeError α} {o : Option α} (h : readField given read = .ok o) :
    o.isSome = given.isSome := by
  cases given with
  | none =>
    cases h
    rfl
  | some v =>
    rw [readField] at h
    cases hv : read v with
    | error e =>
      rw [hv] at h
      cases h
    | ok a =>
      rw [hv] at h
      cases h
      rfl

namespace RuleDefinition

/-- Does the value give an identifier, be it one of the wrong shape? -/
def givesId : Value → Bool
  | .obj members => (Value.member? "id" members).isSome
  | .arr elements => elements[0]?.isSome
  | _ => false

/-- The definition with another identifier, unless it was given. -/
def withFreshId (given : Bool) (freshId : String) (d : RuleDefinition) : RuleDefinition :=
  if given then d else { d with id := freshId }

theorem withFreshId_isSome (given : Option String) (freshId freshId' : String) (name : String)
    (condition : ConditionDefinition) (consequences : List Value) :
    withFreshId given.isSome freshId' ⟨given.getD freshId, name, condition, consequences⟩ =
      ⟨given.getD freshId', name, condition, consequences⟩ := by
  cases given <;> rfl

/-- **A generated identifier is put in where none is given**, and makes no other difference. -/
theorem ofValue_eq_map (freshId freshId' : String) (v : Value) :
    ofValue freshId' v = (ofValue freshId v).map (withFreshId (givesId v) freshId') := by
  cases v with
  | obj members =>
    simp only [ofValue, bind, Except.bind, pure, Except.pure, givesId]
    cases Value.readField (Value.member? "condition" members) ConditionDefinition.ofValue with
    | error e => rfl
    | ok condition =>
      cases Value.readField (Value.member? "consequences" members) Value.asList with
      | error e => rfl
      | ok consequences =>
        cases hid : Value.readField (Value.member? "id" members) Value.asText with
        | error e => rfl
        | ok id =>
          cases Value.readField (Value.member? "name" members) Value.asText with
          | error e => rfl
          | ok name =>
            cases condition with
            | none => rfl
            | some condition =>
              rw [← Value.isSome_of_readField hid]
              exact congrArg Except.ok (withFreshId_isSome id freshId freshId' _ _ _).symm
  | arr elements =>
    simp only [ofValue, bind, Except.bind, pure, Except.pure, givesId]
    cases hid : Value.readField elements[0]? Value.asText with
    | error e => rfl
    | ok id =>
      cases Value.readField elements[1]? Value.asText with
      | error e => rfl
      | ok name =>
        cases Value.readField elements[2]? ConditionDefinition.ofValue with
        | error e => rfl
        | ok condition =>
          cases condition with
          | none => rfl
          | some condition =>
            cases Value.readField elements[3]? Value.asList with
            | error e => rfl
            | ok consequences =>
              cases Value.noMoreThan 4 elements with
              | error e => rfl
              | ok _ =>
                rw [← Value.isSome_of_readField hid]
                exact congrArg Except.ok (withFreshId_isSome id freshId freshId' _ _ _).symm
  | null | bool | num | str => rfl

end RuleDefinition
end Rulebook
