import Rulebook.Conversion
import Rulebook.Proofs.Compile.Cases
import Rulebook.Proofs.Compile.Rule
import Rulebook.Proofs.Condition.Regular

/-!
# Compiled conditions can be handled

The names that compiling writes into a condition and the names that the judge knows are separate
lists of texts, and no rule whose condition holds would show that they have drifted apart: an
operator that is not known only makes a condition fail.

**Theorem (`regular_and_handled_of_compile`).** Every node of a compiled condition is regular, so
that evaluating it never comes upon an operator or a connective that is not known, and never makes
the judge write a line. If the condition of a compiled rule fails, then because what it asks is not
so, except for a single comparison of a key that has no value.

What is regular is handled (`Rulebook.Proofs.Condition.Regular`); that what is compiled is regular
is an induction on the nesting of groups.
-/

namespace Rulebook

/-- A compiled matcher has regular nodes only. -/
theorem MatcherDefinition.regular_compile {m : MatcherDefinition} {c n : Condition}
    (h : m.compile = .ok c) (hn : n.IsNode c) : n.Regular := by
  obtain ⟨o, -, -, ⟨hu, rfl⟩ | ⟨hu, v, -, rfl⟩ | ⟨hu, hne, rfl⟩⟩ := compile_eq_ok h
  · cases hn
    exact .check (Operator.name_mem_checkNames hu)
  · cases hn
    exact .comparison (Operator.name_mem_comparisonNames hu)
  · rcases Condition.isNode_group.1 hn with rfl | ⟨c, hc, hn⟩
    · exact .group (by decide) (by simpa using hne)
    · obtain ⟨v, -, rfl⟩ := List.mem_map.1 hc
      cases hn
      exact .comparison (Operator.name_mem_comparisonNames hu)

/-- A compiled condition has regular nodes only. -/
theorem ConditionDefinition.regular_compile {d : ConditionDefinition} {c n : Condition}
    (h : d.compile = .ok c) (hn : n.IsNode c) : n.Regular := by
  induction d using ConditionDefinition.induction generalizing c with
  | step d ih =>
    rcases compile_eq_ok h with ⟨g, cs, k, hg, -, hne, hcs, rfl⟩ | ⟨m, -, hc⟩
    · rcases Condition.isNode_group.1 hn with rfl | ⟨c, hc, hn⟩
      · refine .group (by cases k <;> decide) ?_
        rintro rfl
        exact hne (List.forall₂_nil_right_iff.1 hcs)
      · obtain ⟨e, he, hec⟩ := exists_mem_of_forall₂ hcs.flip c hc
        exact ih g hg e he hec hn
    · exact MatcherDefinition.regular_compile hc hn

/-- **Compiled conditions can be handled.** All their nodes are regular: comparisons of a
placeholder with a fixed value and checks of a placeholder by operators that are known, and groups
with a known connective and at least one member. None of them is therefore evaluated to a failure
for an operator that is not known, for a value of the wrong kind or for no reason. No line is
written but by conversions. A condition fails because a value is missing just when it is a single
comparison of a key without one, and otherwise because it does not hold. -/
theorem regular_and_handled_of_compile (k : Compiler) {d : RuleDefinition} {r : Rule}
    (h : (k.compile d).1 = .ok r) :
    (∀ n : Condition, n.IsNode r.condition → n.Regular) ∧
      ∀ (mode : CaseMode) (lookup : String → Option Value)
        (convert : String → Option Value → Logged (Option Value)),
        let ctx : Context := ⟨lookup, .standard mode, convert⟩
        (∀ n : Condition, n.IsNode r.condition →
            (n.evaluate ctx).value.kind? ∈
              [none, some .conditionFailed, some .invalidOperand]) ∧
          (r.condition.evaluate ctx).lines =
            ctx.conversionLines (r.condition.evaluate ctx).trace ∧
          (r.condition.LacksValue ctx →
            (r.condition.evaluate ctx).value.kind? = some .invalidOperand) ∧
          (¬ r.condition.LacksValue ctx →
            (r.condition.evaluate ctx).value.kind? ∈ [none, some .conditionFailed]) := by
  obtain ⟨-, c, hc, rfl⟩ := Compiler.compile_eq_ok.1 h
  have hregular (n : Condition) (hn : n.IsNode c) : n.Regular :=
    ConditionDefinition.regular_compile hc hn
  refine ⟨hregular, fun mode lookup convert => ⟨fun n hn => ?_, ?_, ?_, ?_⟩⟩
  · by_cases hlacks : n.LacksValue ⟨lookup, .standard mode, convert⟩
    · rw [Condition.value_evaluate_of_lacksValue hlacks]
      decide
    · have hkind := Condition.kind?_evaluate rfl (hregular n hn) hlacks
      simp only [List.mem_cons, List.not_mem_nil, or_false] at hkind ⊢
      exact hkind.imp_right .inl
  · exact Condition.lines_evaluate rfl hregular
  · exact Condition.value_evaluate_of_lacksValue
  · exact Condition.kind?_evaluate rfl (hregular c .root)

/-- A definition of one comparison. -/
def goldMember : RuleDefinition :=
  .new "gold" "" (.matcher "user.level" "eq" [.str "gold"])

/-- What the condition of `goldMember` compiles to. -/
def goldMemberCondition : Condition :=
  .comparison (.placeholder (.ref "user.level")) "equals" (.literal (.str "gold"))

theorem compile_goldMember :
    (Compiler.new.compile goldMember).1 =
      .ok (Compiler.new.ruleOf goldMember goldMemberCondition) :=
  Compiler.compile_eq_ok.2 ⟨by decide, goldMemberCondition, by cbv, rfl⟩

theorem regular_and_handled_of_compile_vipOrder :
    let ctx : Context := ⟨fun _ => none, .standard .ignored, Registry.builtin.convert⟩
    ((Compiler.new.compile vipOrder).1 =
          .ok (Compiler.new.ruleOf vipOrder vipOrderCondition) ∧
        (∀ n : Condition, n.IsNode vipOrderCondition → n.Regular) ∧
        (vipOrderCondition.evaluate ctx).value.kind? ∈ [none, some .conditionFailed]) ∧
      (Compiler.new.compile goldMember).1 =
          .ok (Compiler.new.ruleOf goldMember goldMemberCondition) ∧
        (goldMemberCondition.evaluate ctx).value.kind? = some .invalidOperand := by
  intro ctx
  have hvip := regular_and_handled_of_compile Compiler.new compile_vipOrder
  have hgold := regular_and_handled_of_compile Compiler.new compile_goldMember
  refine ⟨⟨compile_vipOrder, hvip.1, (hvip.2 .ignored _ _).2.2.2 ?_⟩, compile_goldMember,
    (hgold.2 .ignored _ _).2.2.1 ⟨.ref "user.level", "equals", .str "gold", rfl, rfl⟩⟩
  rintro ⟨p, o, v, hc, -⟩
  cases hc

end Rulebook
