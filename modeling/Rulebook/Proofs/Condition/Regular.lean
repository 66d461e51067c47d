import Rulebook.Comparison
import Rulebook.Proofs.Condition.Basic

/-!
# Conditions that the judge can handle

A condition names its operators and connectives by texts, and nothing keeps it from naming one that
does not exist. A node is `Regular` when it does not: a comparison of a placeholder with a fixed
value by one of the ten operators that compare, a check of a placeholder by one of the two that
check, or a group with a known connective and at least one member.

* A regular node does not fail in any way but two: what it asks is not so, or it compares a
  placeholder that has no value (`kind?_evaluate`).
* A condition all nodes of which are regular is evaluated without a word of the judge. The lines
  written on the way are those that the conversions write (`lines_evaluate`).
-/

namespace Rulebook

/-! ## Operators that are known -/

/-- The names of the operators that compare two values. -/
def comparisonNames : List String :=
  ["equals", "notEquals", "startsWith", "endsWith", "contains", "notContains", "greaterThan",
    "greaterThanOrEquals", "lessThan", "lessThanOrEquals"]

/-- The names of the operators that check one value. -/
def checkNames : List String := ["exists", "notExists"]

theorem Operator.name_mem_comparisonNames {o : Operator} (h : o.isUnary = false) :
    o.name ∈ comparisonNames := by
  cases o with
  | «exists» | notExists => cases h
  | _ => decide

theorem Operator.name_mem_checkNames {o : Operator} (h : o.isUnary = true) :
    o.name ∈ checkNames := by
  cases o with
  | «exists» | notExists => decide
  | _ => cases h

theorem Operator.ofName?_of_mem_comparisonNames {s : String} (h : s ∈ comparisonNames) :
    ∃ o, ofName? s = some o ∧ o.isUnary = false := by
  have hall : ∀ s ∈ comparisonNames, (ofName? s).map isUnary = some false := by decide
  exact Option.map_eq_some_iff.1 (hall s h)

theorem Operator.ofName?_of_mem_checkNames {s : String} (h : s ∈ checkNames) :
    ∃ o, ofName? s = some o ∧ o.isUnary = true := by
  have hall : ∀ s ∈ checkNames, (ofName? s).map isUnary = some true := by decide
  exact Option.map_eq_some_iff.1 (hall s h)

namespace Judge

/-- An operator that is known and has a result is decided by it, and nothing is logged. -/
theorem ofResult_of_isSome {s : String} {o : Operator} {result : Operator → Option Bool}
    (ho : Operator.ofName? s = some o) (h : (result o).isSome = true) :
    ∃ holds, ofResult s ((Operator.ofName? s).bind result) = pure (outcome holds s) := by
  obtain ⟨holds, hholds⟩ := Option.isSome_iff_exists.1 h
  exact ⟨holds, by rw [ho, Option.bind_some, hholds, ofResult]⟩

theorem compare_of_mem_comparisonNames (mode : CaseMode) (l r : Value) {s : String}
    (h : s ∈ comparisonNames) :
    ∃ holds, (standard mode).compare l s r = pure (outcome holds s) := by
  obtain ⟨o, ho, hbinary⟩ := Operator.ofName?_of_mem_comparisonNames h
  refine ofResult_of_isSome ho ?_
  cases o with
  | «exists» | notExists => cases hbinary
  | _ => rfl

theorem check_of_mem_checkNames (mode : CaseMode) (x : Option Value) {s : String}
    (h : s ∈ checkNames) :
    ∃ holds, (standard mode).check s x = pure (outcome holds s) := by
  obtain ⟨o, ho, hunary⟩ := Operator.ofName?_of_mem_checkNames h
  refine ofResult_of_isSome ho ?_
  cases o with
  | «exists» | notExists => rfl
  | _ => cases hunary

end Judge

/-! ## Nodes -/

namespace Condition

/-- The condition stands in another one, at some depth. -/
inductive IsNode (n : Condition) : Condition → Prop
  | root : IsNode n n
  | member {connective : String} {members : List Condition} {m : Condition} (hm : m ∈ members)
      (h : IsNode n m) : IsNode n (.group connective members)

theorem isNode_group {n : Condition} {connective : String} {members : List Condition} :
    n.IsNode (.group connective members) ↔
      n = .group connective members ∨ ∃ m ∈ members, n.IsNode m := by
  constructor
  · rintro (_ | ⟨hm, h⟩)
    · exact .inl rfl
    · exact .inr ⟨_, hm, h⟩
  · rintro (rfl | ⟨m, hm, h⟩)
    · exact .root
    · exact .member hm h

/-- The node is of a form that the judge can handle. -/
inductive Regular : Condition → Prop
  | comparison {p : Placeholder} {operator : String} {v : Value}
      (ho : operator ∈ comparisonNames) :
      Regular (.comparison (.placeholder p) operator (.literal v))
  | check {p : Placeholder} {operator : String} (ho : operator ∈ checkNames) :
      Regular (.check operator (.placeholder p))
  | group {connective : String} {members : List Condition} (hk : connective ∈ ["and", "or"])
      (hne : members ≠ []) : Regular (.group connective members)

/-- The condition is a single comparison, of a placeholder that has no value. -/
def LacksValue (ctx : Context) (c : Condition) : Prop :=
  ∃ p operator v, c = .comparison (.placeholder p) operator (.literal v) ∧
    (p.resolve ctx).value = none

/-! ## Outcomes -/

theorem kind?_outcome (holds : Bool) (operator : String) :
    (Judge.outcome holds operator).kind? ∈ [none, some .conditionFailed] := by
  cases holds <;> simp [Judge.outcome, Outcome.kind?]

theorem kind?_groupOutcome (k : Connective) (holds : Bool) :
    (groupOutcome k holds).kind? ∈ [none, some .conditionFailed] := by
  cases k <;> cases holds <;> decide

variable {mode : CaseMode} {ctx : Context}

theorem value_evaluate_of_lacksValue {c : Condition} (h : c.LacksValue ctx) :
    (c.evaluate ctx).value.kind? = some .invalidOperand := by
  obtain ⟨p, operator, v, rfl, hp⟩ := h
  simp only [evaluate, Term.resolve, Traced.value_bind, Traced.value_pure, hp]
  rfl

/-- **How a regular node may fail.** Where it does not compare a placeholder without a value, it
fails only by what it asks not being so. -/
theorem kind?_evaluate (hjudge : ctx.judge = .standard mode) {c : Condition} (hc : c.Regular)
    (h : ¬ c.LacksValue ctx) : (c.evaluate ctx).value.kind? ∈ [none, some .conditionFailed] := by
  cases hc with
  | @comparison p operator v ho =>
    cases hp : (p.resolve ctx).value with
    | none => exact absurd ⟨p, operator, v, rfl, hp⟩ h
    | some l =>
      obtain ⟨holds, hholds⟩ := Judge.compare_of_mem_comparisonNames mode l v ho
      simp only [evaluate, Term.resolve, Traced.value_bind, Traced.value_pure, hp,
        Context.value_compare, hjudge, hholds]
      exact kind?_outcome holds operator
  | @check p operator ho =>
    obtain ⟨holds, hholds⟩ := Judge.check_of_mem_checkNames mode (p.resolve ctx).value ho
    simp only [evaluate, Term.resolve, Traced.value_bind, Context.value_check, hjudge, hholds,
      Traced.value_pure]
    exact kind?_outcome holds operator
  | @group connective members hk _ =>
    rw [List.mem_cons, List.mem_singleton] at hk
    rcases hk with rfl | rfl
    · exact kind?_groupOutcome .and _
    · exact kind?_groupOutcome .or _

end Condition

/-! ## Log lines -/

/-- The lines that the conversions among some events write. -/
def Context.conversionLines (ctx : Context) (events : List Event) : List LogLine :=
  events.flatMap fun
    | .convert name input => (ctx.convert name input).trace
    | _ => []

namespace Run

variable {α β : Type}

/-- No lines are written in the run but by conversions. -/
def OnlyConversionsLog (ctx : Context) (x : Run α) : Prop :=
  x.lines = ctx.conversionLines x.trace

variable {ctx : Context}

theorem onlyConversionsLog_pure (a : α) : OnlyConversionsLog ctx (pure a : Run α) := rfl

theorem OnlyConversionsLog.bind {x : Run α} {f : α → Run β} (hx : OnlyConversionsLog ctx x)
    (hf : OnlyConversionsLog ctx (f x.value)) : OnlyConversionsLog ctx (x >>= f) := by
  unfold OnlyConversionsLog lines Context.conversionLines at *
  rw [Traced.trace_bind, List.filterMap_append, List.flatMap_append, hx, hf]

/-- Lines that are written after another event count as its own. -/
theorem lines_ofLogged (x : Logged α) : (Run.ofLogged x).lines = x.trace := by
  show (x.trace.map Event.log).filterMap Event.line? = x.trace
  rw [List.filterMap_map]
  exact List.filterMap_some

theorem conversionLines_ofLogged (x : Logged α) :
    ctx.conversionLines (Run.ofLogged x).trace = [] := by
  show (x.trace.map Event.log).flatMap _ = []
  rw [List.flatMap_map]
  exact List.flatMap_eq_nil_iff.2 fun _ _ => rfl

theorem onlyConversionsLog_get (path : String) : OnlyConversionsLog ctx (ctx.get path) := rfl

theorem onlyConversionsLog_call (name : String) (x : Option Value) :
    OnlyConversionsLog ctx (ctx.call name x) := by
  show (Run.ofLogged (ctx.convert name x)).lines =
    (ctx.convert name x).trace ++ ctx.conversionLines (Run.ofLogged (ctx.convert name x)).trace
  rw [lines_ofLogged, conversionLines_ofLogged, List.append_nil]

theorem onlyConversionsLog_compare {l r : Value} {operator : String} {o : Outcome}
    (h : ctx.judge.compare l operator r = pure o) :
    OnlyConversionsLog ctx (ctx.compare l operator r) := by
  show OnlyConversionsLog ctx (Traced.tell _ >>= fun _ => Run.ofLogged _)
  rw [h]
  rfl

theorem onlyConversionsLog_check {x : Option Value} {operator : String} {o : Outcome}
    (h : ctx.judge.check operator x = pure o) :
    OnlyConversionsLog ctx (ctx.check operator x) := by
  show OnlyConversionsLog ctx (Traced.tell _ >>= fun _ => Run.ofLogged _)
  rw [h]
  rfl

theorem onlyConversionsLog_resolve (p : Placeholder) :
    OnlyConversionsLog ctx (p.resolve ctx) := by
  induction p with
  | ref path => exact onlyConversionsLog_get path
  | call name argument ih => exact ih.bind (onlyConversionsLog_call name _)

end Run

namespace Condition

variable {mode : CaseMode} {ctx : Context}

theorem onlyConversionsLog_allHold {members : List Condition}
    (h : ∀ m ∈ members, Run.OnlyConversionsLog ctx (m.evaluate ctx)) :
    Run.OnlyConversionsLog ctx (allHold ctx members) := by
  induction members with
  | nil => rw [allHold]; exact Run.onlyConversionsLog_pure true
  | cons m rest ih =>
    rw [List.forall_mem_cons] at h
    rw [allHold]
    refine h.1.bind ?_
    split
    · exact ih h.2
    · exact Run.onlyConversionsLog_pure false

theorem onlyConversionsLog_anyHolds {members : List Condition}
    (h : ∀ m ∈ members, Run.OnlyConversionsLog ctx (m.evaluate ctx)) :
    Run.OnlyConversionsLog ctx (anyHolds ctx members) := by
  induction members with
  | nil => rw [anyHolds]; exact Run.onlyConversionsLog_pure false
  | cons m rest ih =>
    rw [List.forall_mem_cons] at h
    rw [anyHolds]
    refine h.1.bind ?_
    split
    · exact Run.onlyConversionsLog_pure true
    · exact ih h.2

/-- **The judge is silent about regular conditions**, by induction on the condition: what stands in
a member stands in the group. -/
theorem lines_evaluate (hjudge : ctx.judge = .standard mode) {c : Condition}
    (hc : ∀ n : Condition, n.IsNode c → n.Regular) :
    (c.evaluate ctx).lines = ctx.conversionLines (c.evaluate ctx).trace := by
  induction c using Condition.induction with
  | comparison lhs operator rhs =>
    cases hc _ .root with
    | @comparison p _ v ho =>
      rw [evaluate, Term.resolve, Term.resolve]
      refine (Run.onlyConversionsLog_resolve p).bind ((Run.onlyConversionsLog_pure _).bind ?_)
      cases (p.resolve ctx).value with
      | none => exact Run.onlyConversionsLog_pure _
      | some l =>
        obtain ⟨holds, hholds⟩ := Judge.compare_of_mem_comparisonNames mode l v ho
        exact Run.onlyConversionsLog_compare (hjudge ▸ hholds)
  | check operator subject =>
    cases hc _ .root with
    | @check p _ ho =>
      rw [evaluate]
      refine (Run.onlyConversionsLog_resolve p).bind ?_
      obtain ⟨holds, hholds⟩ := Judge.check_of_mem_checkNames mode (p.resolve ctx).value ho
      exact Run.onlyConversionsLog_check (hjudge ▸ hholds)
  | group connective members ih =>
    have hmembers : ∀ m ∈ members, Run.OnlyConversionsLog ctx (m.evaluate ctx) :=
      fun m hm => ih m hm fun n hn => hc n (.member hm hn)
    rw [evaluate]
    split
    · exact (onlyConversionsLog_allHold hmembers).bind (Run.onlyConversionsLog_pure _)
    · exact (onlyConversionsLog_anyHolds hmembers).bind (Run.onlyConversionsLog_pure _)
    · exact Run.onlyConversionsLog_pure _

end Condition
end Rulebook
