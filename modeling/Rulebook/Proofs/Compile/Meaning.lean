import Rulebook.Comparison
import Rulebook.Proofs.Compile.Cases
import Rulebook.Proofs.Condition.Basic
import Rulebook.Proofs.Compile.Rule

/-!
# Compiling keeps the meaning of a definition

`Holds` says what a definition means without compiling it. A group holds when all or some of its
conditions do. The matchers `ex` and `nx` ask whether the key has a value other than `null`. Every
other matcher asks for a value of the key that the judge finds to stand in the matcher's relation
to one of the values given; a key without a value makes it fail, also when the relation is a
negative one.

**Theorem (`evaluate_compile_iff_holds`).** The condition of a compiled rule succeeds if and only
if the definition that it was compiled from holds, whatever can be looked up, however values are
converted, and in either mode of comparing.

The proof follows the nesting of groups. A single comparison, the alternative of several and the
check of a key are the three forms in which a matcher is compiled, and each of them is weighed
against the one meaning that matchers have.
-/

namespace Rulebook

/-! ## What definitions mean -/

/-- The value that a matcher's key has. -/
def MatcherDefinition.subject (ctx : Context) (m : MatcherDefinition) : Option Value :=
  ((Placeholder.parse m.key).resolve ctx).value

inductive MatcherDefinition.Holds (ctx : Context) (m : MatcherDefinition) : Prop where
  | present (h : m.matcher = "ex") (hnone : m.subject ctx ≠ none)
      (hnull : m.subject ctx ≠ some .null)
  | absent (h : m.matcher = "nx") (hx : m.subject ctx = none ∨ m.subject ctx = some .null)
  | compared {operator : String} {x v : Value} (h : (m.matcher, operator) ∈ comparingMatchers)
      (hx : m.subject ctx = some x) (hv : v ∈ m.values)
      (hsuccess : (ctx.judge.compare x operator v).value.isSuccess = true)

inductive ConditionDefinition.Holds (ctx : Context) : ConditionDefinition → Prop where
  | all {d : ConditionDefinition} {g : GroupDefinition} (hg : d.IsGroup g) (hl : g.logic = "and")
      (hall : ∀ c ∈ g.conditions, Holds ctx c) : Holds ctx d
  | some {d c : ConditionDefinition} {g : GroupDefinition} (hg : d.IsGroup g) (hl : g.logic = "or")
      (hc : c ∈ g.conditions) (hsome : Holds ctx c) : Holds ctx d
  | matcher {d : ConditionDefinition} {m : MatcherDefinition} (hm : d.IsMatcher m)
      (h : m.Holds ctx) : Holds ctx d

namespace ConditionDefinition

variable {ctx : Context} {d : ConditionDefinition}

theorem holds_iff_all {g : GroupDefinition} (hg : d.IsGroup g) (hl : g.logic = "and") :
    d.Holds ctx ↔ ∀ c ∈ g.conditions, c.Holds ctx := by
  constructor
  · intro h
    cases h with
    | all hg' _ hall =>
      obtain rfl := hg.unique hg'
      exact hall
    | some hg' hl' _ _ =>
      obtain rfl := hg.unique hg'
      exact absurd (hl.symm.trans hl') (by decide)
    | matcher hm _ => exact absurd hm hg.not_isMatcher
  · exact fun h => .all hg hl h

theorem holds_iff_some {g : GroupDefinition} (hg : d.IsGroup g) (hl : g.logic = "or") :
    d.Holds ctx ↔ ∃ c ∈ g.conditions, c.Holds ctx := by
  constructor
  · intro h
    cases h with
    | all hg' hl' _ =>
      obtain rfl := hg.unique hg'
      exact absurd (hl.symm.trans hl') (by decide)
    | some hg' _ hc hsome =>
      obtain rfl := hg.unique hg'
      exact ⟨_, hc, hsome⟩
    | matcher hm _ => exact absurd hm hg.not_isMatcher
  · rintro ⟨c, hc, h⟩
    exact .some hg hl hc h

theorem holds_iff_matcher {m : MatcherDefinition} (hm : d.IsMatcher m) :
    d.Holds ctx ↔ m.Holds ctx := by
  constructor
  · intro h
    cases h with
    | all hg _ _ => exact absurd hm hg.not_isMatcher
    | some hg _ _ _ => exact absurd hm hg.not_isMatcher
    | matcher hm' h =>
      obtain rfl := hm.unique hm'
      exact h
  · exact fun h => .matcher hm h

end ConditionDefinition

/-! ## Checks -/

theorem Value.isPresent_iff {x : Option Value} :
    Value.isPresent x = true ↔ x ≠ none ∧ x ≠ some .null := by
  cases x with
  | none => simp [isPresent]
  | some v => cases v <;> simp [isPresent]

namespace Judge

theorem isSuccess_outcome (holds : Bool) (operator : String) :
    (outcome holds operator).isSuccess = holds := by
  cases holds <;> rfl

/-- The judge finds a check to succeed when it holds of the subject. -/
theorem isSuccess_check (mode : CaseMode) {o : Operator} {x : Option Value} {holds : Bool}
    (h : o.checks? x = some holds) :
    ((standard mode).check o.name x).value.isSuccess = holds := by
  show (ofResult o.name ((Operator.ofName? o.name).bind _)).value.isSuccess = holds
  rw [Operator.ofName?_name, Option.bind_some, h]
  exact isSuccess_outcome holds o.name

end Judge

/-! ## Matchers -/

namespace MatcherDefinition

variable {mode : CaseMode} {ctx : Context} {m : MatcherDefinition}

theorem resolve_keyTerm : (m.keyTerm.resolve ctx).value = m.subject ctx := rfl

/-- One of the comparisons that a matcher is compiled to. -/
theorem succeeds_comparison {o : Operator} {v : Value} :
    Condition.Succeeds ctx (.comparison m.keyTerm o.name (.literal v)) ↔
      ∃ x, m.subject ctx = some x ∧ (ctx.judge.compare x o.name v).value.isSuccess = true := by
  rw [Condition.succeeds_comparison]
  constructor
  · rintro ⟨x, r, hx, hr, h⟩
    cases hr
    exact ⟨x, hx, h⟩
  · rintro ⟨x, hx, h⟩
    exact ⟨x, v, hx, rfl, h⟩

theorem holds_iff_compared {o : Operator} (ho : matcherOperator? m.matcher = some o)
    (hu : o.isUnary = false) :
    m.Holds ctx ↔
      ∃ v ∈ m.values, Condition.Succeeds ctx (.comparison m.keyTerm o.name (.literal v)) := by
  rcases matcherOperator?_cases ho with ⟨-, hex, hnx, htable⟩ | ⟨-, rfl⟩ | ⟨-, rfl⟩
  · constructor
    · intro h
      cases h with
      | present h => exact absurd h hex
      | absent h => exact absurd h hnx
      | compared h hx hv hsuccess =>
        obtain rfl := (htable _).1 h
        exact ⟨_, hv, succeeds_comparison.2 ⟨_, hx, hsuccess⟩⟩
    · rintro ⟨v, hv, h⟩
      obtain ⟨x, hx, hsuccess⟩ := succeeds_comparison.1 h
      exact .compared ((htable _).2 rfl) hx hv hsuccess
  · cases hu
  · cases hu

theorem holds_iff_present (h : m.matcher = "ex") :
    m.Holds ctx ↔ Value.isPresent (m.subject ctx) = true := by
  rw [Value.isPresent_iff]
  constructor
  · intro hm
    cases hm with
    | present _ hnone hnull => exact ⟨hnone, hnull⟩
    | absent h' => exact absurd (h.symm.trans h') (by decide)
    | compared h' => rw [h] at h'; simp [comparingMatchers] at h'
  · rintro ⟨hnone, hnull⟩
    exact .present h hnone hnull

theorem holds_iff_absent (h : m.matcher = "nx") :
    m.Holds ctx ↔ Value.isPresent (m.subject ctx) = false := by
  rw [← Bool.not_eq_true, Value.isPresent_iff, not_and_or, not_not, not_not]
  constructor
  · intro hm
    cases hm with
    | present h' => exact absurd (h.symm.trans h') (by decide)
    | absent _ hx => exact hx
    | compared h' => rw [h] at h'; simp [comparingMatchers] at h'
  · exact fun hx => .absent h hx

/-- **A compiled matcher succeeds when the matcher holds.** -/
theorem succeeds_iff_holds (hjudge : ctx.judge = .standard mode) {c : Condition}
    (h : m.compile = .ok c) : c.Succeeds ctx ↔ m.Holds ctx := by
  obtain ⟨o, ho, -, ⟨hu, rfl⟩ | ⟨hu, v, hv, rfl⟩ | ⟨hu, -, rfl⟩⟩ := compile_eq_ok h
  · rw [Condition.succeeds_check, hjudge]
    rcases matcherOperator?_cases ho with ⟨hu', -⟩ | ⟨hex, rfl⟩ | ⟨hnx, rfl⟩
    · exact absurd (hu.symm.trans hu') (by decide)
    · rw [holds_iff_present hex, Judge.isSuccess_check mode rfl, resolve_keyTerm]
    · rw [holds_iff_absent hnx, Judge.isSuccess_check mode rfl, resolve_keyTerm,
        Bool.not_eq_true']
  · rw [holds_iff_compared ho hu, hv]
    simp
  · rw [holds_iff_compared ho hu]
    refine Condition.succeeds_any.trans ?_
    simp

end MatcherDefinition

/-! ## Groups -/

namespace ConditionDefinition

variable {mode : CaseMode} {ctx : Context}

/-- **A compiled condition succeeds when its definition holds**, by induction on the nesting of
groups. -/
theorem succeeds_iff_holds (hjudge : ctx.judge = .standard mode) {d : ConditionDefinition}
    {c : Condition} (h : d.compile = .ok c) : c.Succeeds ctx ↔ d.Holds ctx := by
  induction d using ConditionDefinition.induction generalizing c with
  | step d ih =>
    rcases compile_eq_ok h with ⟨g, cs, k, hg, hl, -, hcs, rfl⟩ | ⟨m, hm, hc⟩
    · have hiff : List.Forall₂ (fun e c => Condition.Succeeds ctx c ↔ e.Holds ctx)
          g.conditions cs :=
        forall₂_imp_of_mem hcs fun e he c hec => ih g hg e he hec
      cases k with
      | and => rw [Condition.succeeds_all, holds_iff_all hg hl, forall_mem_iff_of_forall₂ hiff]
      | or => rw [Condition.succeeds_any, holds_iff_some hg hl, exists_mem_iff_of_forall₂ hiff]
    · rw [holds_iff_matcher hm]
      exact MatcherDefinition.succeeds_iff_holds hjudge hc

end ConditionDefinition

/-! ## Compiled rules -/

/-- **Compiling keeps the meaning of a definition.** The condition of a compiled rule succeeds if
and only if the definition's condition holds, and the rule's identifier, name and consequences are
those of the definition. -/
theorem evaluate_compile_iff_holds (k : Compiler) {d : RuleDefinition} {r : Rule}
    (h : (k.compile d).1 = .ok r) (mode : CaseMode) (lookup : String → Option Value)
    (convert : String → Option Value → Logged (Option Value)) :
    ((r.condition.evaluate ⟨lookup, .standard mode, convert⟩).value.isSuccess = true ↔
        d.condition.Holds ⟨lookup, .standard mode, convert⟩) ∧
      r.id = d.id ∧ r.name = d.name ∧ r.consequences = d.consequences := by
  obtain ⟨-, c, hc, rfl⟩ := Compiler.compile_eq_ok.1 h
  exact ⟨ConditionDefinition.succeeds_iff_holds rfl hc, rfl, rfl, rfl⟩

theorem evaluate_compile_iff_holds_vipOrder :
    (Compiler.new.compile vipOrder).1 = .ok (Compiler.new.ruleOf vipOrder vipOrderCondition) ∧
      ((vipOrderCondition.evaluate
            ⟨fun _ => some (.str "12"), .standard .ignored, fun _ v => pure v⟩).value.isSuccess =
          true ↔
        vipOrder.condition.Holds
          ⟨fun _ => some (.str "12"), .standard .ignored, fun _ v => pure v⟩) :=
  ⟨compile_vipOrder,
    (evaluate_compile_iff_holds Compiler.new compile_vipOrder .ignored _ _).1⟩

end Rulebook
