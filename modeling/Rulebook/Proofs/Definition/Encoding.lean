import Rulebook.Definition.OfValue

/-!
# Reading definitions that were written

A definition written as a value reads as itself (`ofValue_toValue`, for each of the four records).
The fields are written by name and in the order of their keys, all of them, so that none is missed
and none falls back on its default. What any value reads as is in this form once it is written
(`rewritten_of_rewritten`).
-/

namespace Rulebook

open Value

namespace ConditionDefinition

theorem ofValue_toValue (d : ConditionDefinition) : ofValue d.toValue = .ok d := rfl

theorem mapM_ofValue_toValue (ds : List ConditionDefinition) :
    (ds.map toValue).mapM ofValue = .ok ds := by
  induction ds with
  | nil => rfl
  | cons d rest ih =>
    rw [List.map_cons, List.mapM_cons, ofValue_toValue, ih]
    rfl

end ConditionDefinition

theorem GroupDefinition.ofValue_toValue (g : GroupDefinition) : ofValue g.toValue = .ok g := by
  have hread : asListOf ConditionDefinition.ofValue
      (.arr (g.conditions.map ConditionDefinition.toValue)) = .ok g.conditions :=
    ConditionDefinition.mapM_ofValue_toValue g.conditions
  have hconditions (v w : Value) :
      member? "conditions" [("conditions", v), ("logic", w)] = some v := rfl
  simp only [toValue, ofValue, hconditions, readField, hread]
  rfl

theorem MatcherDefinition.ofValue_toValue (m : MatcherDefinition) : ofValue m.toValue = .ok m :=
  rfl

namespace RuleDefinition

theorem ofValue_toValue (freshId : String) (d : RuleDefinition) :
    ofValue freshId d.toValue = .ok d := rfl

/-- What is written of the definition that a value reads as. -/
def rewritten (freshId : String) (v : Value) : Except Json.ShapeError Value :=
  (ofValue freshId v).map toValue

/-- Once rewritten, a value has all fields and stays as it is. -/
theorem rewritten_of_rewritten {freshId : String} {v w : Value}
    (h : rewritten freshId v = .ok w) :
    (∀ freshId', rewritten freshId' w = .ok w) ∧
      ∃ members, w = .obj members ∧
        members.map Prod.fst = ["condition", "consequences", "id", "name"] := by
  unfold rewritten at h
  cases hv : ofValue freshId v with
  | error e =>
    rw [hv] at h
    cases h
  | ok d =>
    rw [hv] at h
    cases h
    exact ⟨fun freshId' => rfl, _, rfl, rfl⟩

end RuleDefinition
end Rulebook
