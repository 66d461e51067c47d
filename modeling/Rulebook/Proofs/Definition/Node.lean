import Rulebook.Definition.OfValue

/-!
# The nodes of a definition

The definition of a condition is a tree, but it shows only as one reads it: the conditions of a
group are hidden in its body. `IsGroup` and `IsMatcher` say that a definition is of one of the two
known kinds and that its body reads. `At d path n` says that `n` is the node that the positions in
`path` lead to from `d`, each of them taking one group apart.

Bodies get smaller on the way down, so what passes from the conditions of a group to the group
holds of every definition (`ConditionDefinition.induction`). Lists of positions are ordered
lexicographically, a list coming before those that go on after it. In this order the nodes of a
tree stand in pre-order, each group before its conditions and these from left to right.
-/

namespace Rulebook.ConditionDefinition

/-- The definition is a group and its body reads. -/
def IsGroup (d : ConditionDefinition) (g : GroupDefinition) : Prop :=
  d.kind = "group" ∧ GroupDefinition.ofValue d.body = .ok g

/-- The definition is a matcher and its body reads. -/
def IsMatcher (d : ConditionDefinition) (m : MatcherDefinition) : Prop :=
  d.kind = "matcher" ∧ MatcherDefinition.ofValue d.body = .ok m

/-- The definition is of a known kind, but its body does not read. -/
def IsMalformed (d : ConditionDefinition) (e : Json.ShapeError) : Prop :=
  (d.kind = "group" ∧ GroupDefinition.ofValue d.body = .error e) ∨
    (d.kind = "matcher" ∧ MatcherDefinition.ofValue d.body = .error e)

theorem IsGroup.unique {d : ConditionDefinition} {g g' : GroupDefinition} (h : d.IsGroup g)
    (h' : d.IsGroup g') : g = g' :=
  Except.ok.inj (h.2.symm.trans h'.2)

theorem IsMatcher.unique {d : ConditionDefinition} {m m' : MatcherDefinition}
    (h : d.IsMatcher m) (h' : d.IsMatcher m') : m = m' :=
  Except.ok.inj (h.2.symm.trans h'.2)

theorem IsGroup.not_isMatcher {d : ConditionDefinition} {g : GroupDefinition}
    {m : MatcherDefinition} (h : d.IsGroup g) : ¬ d.IsMatcher m := by
  intro h'
  have hk : "group" = "matcher" := h.1.symm.trans h'.1
  exact absurd hk (by decide)

/-- What holds of a group whenever it holds of its conditions holds of every definition. -/
theorem induction {P : ConditionDefinition → Prop}
    (step : ∀ d, (∀ g, d.IsGroup g → ∀ c ∈ g.conditions, P c) → P d) (d : ConditionDefinition) :
    P d :=
  step d fun g hg c hc =>
    have := GroupDefinition.sizeOf_body_lt hg.2 hc
    induction step c
termination_by sizeOf d.body

/-- The node that a list of positions leads to. -/
inductive At : ConditionDefinition → List Nat → ConditionDefinition → Prop
  | here (d : ConditionDefinition) : At d [] d
  | member {d c n : ConditionDefinition} {g : GroupDefinition} {i : Nat} {path : List Nat} :
      d.IsGroup g → g.conditions[i]? = some c → At c path n → At d (i :: path) n

/-- One list of positions leads to one node. -/
theorem At.unique {d n n' : ConditionDefinition} {path : List Nat} (h : At d path n)
    (h' : At d path n') : n = n' := by
  induction h with
  | here => cases h'; rfl
  | member hg hc _ ih =>
    cases h' with
    | member hg' hc' h' =>
      obtain rfl := hg.unique hg'
      obtain rfl := Option.some.inj (hc.symm.trans hc')
      exact ih h'

end Rulebook.ConditionDefinition
