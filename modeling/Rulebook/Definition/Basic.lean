import Rulebook.Json.Value

/-!
# Definitions of rules

A rule is defined by an identifier, a name, a condition and its consequences, which are kept as
they are. A condition is defined by its kind and a body; what the body must be depends on the
kind, so it stays a JSON value until it is compiled. `toValue` writes a definition as JSON with
all its fields; the builders `ConditionDefinition.group` and `ConditionDefinition.matcher` write
the body in the same way.
-/

namespace Rulebook

structure ConditionDefinition where
  kind : String
  body : Value

/-- The body of a condition that joins others. -/
structure GroupDefinition where
  logic : String
  conditions : List ConditionDefinition

/-- The body of a condition that matches the value of a key against others. -/
structure MatcherDefinition where
  key : String
  matcher : String
  values : List Value

structure RuleDefinition where
  id : String
  name : String
  condition : ConditionDefinition
  consequences : List Value

/-! ## Names in messages -/

def ConditionDefinition.recordName : String := "ConditionDefinition"

def GroupDefinition.recordName : String := "GroupDefinition"

def MatcherDefinition.recordName : String := "MatcherDefinition"

def RuleDefinition.recordName : String := "RuleDefinition"

/-! ## As JSON -/

def ConditionDefinition.toValue (d : ConditionDefinition) : Value :=
  .obj [("definition", d.body), ("type", .str d.kind)]

def GroupDefinition.toValue (d : GroupDefinition) : Value :=
  .obj [("conditions", .arr (d.conditions.map ConditionDefinition.toValue)),
    ("logic", .str d.logic)]

def MatcherDefinition.toValue (d : MatcherDefinition) : Value :=
  .obj [("key", .str d.key), ("matcher", .str d.matcher), ("values", .arr d.values)]

def RuleDefinition.toValue (d : RuleDefinition) : Value :=
  .obj [("condition", d.condition.toValue), ("consequences", .arr d.consequences),
    ("id", .str d.id), ("name", .str d.name)]

namespace ConditionDefinition

/-- The kind of a condition that joins others. -/
def groupKind : String := "group"

/-- The kind of a condition that matches a key. -/
def matcherKind : String := "matcher"

def group (logic : String) (conditions : List ConditionDefinition) : ConditionDefinition :=
  ⟨groupKind, (GroupDefinition.mk logic conditions).toValue⟩

def matcher (key matcher : String) (values : List Value) : ConditionDefinition :=
  ⟨matcherKind, (MatcherDefinition.mk key matcher values).toValue⟩

end ConditionDefinition

/-- A definition with no consequences yet. -/
def RuleDefinition.new (id name : String) (condition : ConditionDefinition) : RuleDefinition :=
  ⟨id, name, condition, []⟩

end Rulebook
