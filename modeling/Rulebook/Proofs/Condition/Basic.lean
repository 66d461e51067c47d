import Rulebook.Condition

/-!
# Induction on conditions, and when they succeed

What holds of a group whenever it holds of all its members, and holds of comparisons and checks,
holds of every condition (`Condition.induction`).

A comparison succeeds when both sides have values that the judge finds to stand in the relation,
a check when the judge says so of its subject, present or not. A group succeeds when all or some of
its members do: that it stops at the first member that decides it does not show here.
-/

namespace Rulebook

@[simp] theorem Run.value_ofLogged {α : Type} (x : Logged α) :
    (Run.ofLogged x).value = x.value := rfl

@[simp] theorem Context.value_compare (ctx : Context) (l : Value) (o : String) (r : Value) :
    (ctx.compare l o r).value = (ctx.judge.compare l o r).value := rfl

@[simp] theorem Context.value_check (ctx : Context) (o : String) (x : Option Value) :
    (ctx.check o x).value = (ctx.judge.check o x).value := rfl

namespace Condition

/-- What passes from the members to the group holds of every condition. -/
theorem induction {P : Condition → Prop}
    (comparison : ∀ lhs operator rhs, P (.comparison lhs operator rhs))
    (check : ∀ operator subject, P (.check operator subject))
    (group : ∀ connective members, (∀ m ∈ members, P m) → P (.group connective members)) :
    ∀ c, P c
  | .comparison lhs operator rhs => comparison lhs operator rhs
  | .check operator subject => check operator subject
  | .group connective members =>
    group connective members fun m _ => induction comparison check group m

/-! ## Success -/

/-- The condition is evaluated to a success. -/
def Succeeds (ctx : Context) (c : Condition) : Prop := (c.evaluate ctx).value.isSuccess = true

variable {ctx : Context}

@[simp] theorem isSuccess_groupOutcome (k : Connective) (holds : Bool) :
    (groupOutcome k holds).isSuccess = holds := by
  cases holds <;> rfl

theorem succeeds_check {o : String} {subject : Term} :
    Succeeds ctx (.check o subject) ↔
      (ctx.judge.check o (subject.resolve ctx).value).value.isSuccess = true := by
  simp [Succeeds, evaluate]

theorem succeeds_comparison {lhs rhs : Term} {o : String} :
    Succeeds ctx (.comparison lhs o rhs) ↔
      ∃ l r, (lhs.resolve ctx).value = some l ∧ (rhs.resolve ctx).value = some r ∧
        (ctx.judge.compare l o r).value.isSuccess = true := by
  simp only [Succeeds, evaluate, Traced.value_bind]
  cases hl : (lhs.resolve ctx).value with
  | none => simp [unresolved, Outcome.isSuccess]
  | some l =>
    cases hr : (rhs.resolve ctx).value with
    | none => simp [unresolved, Outcome.isSuccess]
    | some r => simp

theorem value_allHold {members : List Condition} :
    (allHold ctx members).value = true ↔ ∀ m ∈ members, Succeeds ctx m := by
  induction members with
  | nil => simp [allHold]
  | cons m rest ih =>
    rw [List.forall_mem_cons, ← ih, Succeeds, allHold, Traced.value_bind]
    cases (m.evaluate ctx).value.isSuccess <;> simp

theorem value_anyHolds {members : List Condition} :
    (anyHolds ctx members).value = true ↔ ∃ m ∈ members, Succeeds ctx m := by
  induction members with
  | nil => simp [anyHolds]
  | cons m rest ih =>
    simp only [List.mem_cons, exists_eq_or_imp]
    rw [← ih, Succeeds, anyHolds, Traced.value_bind]
    cases (m.evaluate ctx).value.isSuccess <;> simp

theorem succeeds_all {members : List Condition} :
    Succeeds ctx (.group Connective.and.name members) ↔ ∀ m ∈ members, Succeeds ctx m := by
  rw [← value_allHold, Succeeds, evaluate, Connective.ofName?_name]
  simp

theorem succeeds_any {members : List Condition} :
    Succeeds ctx (.group Connective.or.name members) ↔ ∃ m ∈ members, Succeeds ctx m := by
  rw [← value_anyHolds, Succeeds, evaluate, Connective.ofName?_name]
  simp

end Condition
end Rulebook
