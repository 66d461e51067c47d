import Mathlib.Logic.Basic
import Rulebook.Proofs.Comparison.Basic
import Rulebook.Proofs.Compile.FirstFault
import Rulebook.Proofs.Compile.Meaning
import Rulebook.Proofs.Definition.Encoding

/-!
# Opposite matchers

Of two opposite matchers with the same key and the same value one holds if the other does not, but
only where the question makes sense. `ExactlyOneIf` says both: where something is so, exactly one of
two holds, and elsewhere neither does. Where that is differs from pair to pair. A key may be asked
for always, be compared for equality if it has a value, be searched if this and the value given are
strings, and be put in order if both count as numbers.

**Theorem (`exactlyOneIf_opposite_matchers`).** The rules compiled from opposite matchers partition
the contexts exactly where the pair makes sense.

The negation stands inside the check of what the values are, for every pair but equality. So this is
shown of the operators first, value by value; that a key without a value makes every comparison fail
is added to it last.
-/

namespace Rulebook

/-- Where something is so, exactly one of two holds, and elsewhere neither does. -/
structure ExactlyOneIf (defined first second : Prop) : Prop where
  one : defined → Xor first second
  neither : ¬ defined → ¬ first ∧ ¬ second

/-! ## Opposite operators -/

namespace ExactlyOneIf

theorem of_bool {defined : Prop} {b b' : Bool} (hone : defined → b' = !b)
    (hneither : ¬ defined → b = false ∧ b' = false) :
    ExactlyOneIf defined (b = true) (b' = true) where
  one h := by
    rw [hone h]
    cases b <;> simp
  neither h := by
    obtain ⟨rfl, rfl⟩ := hneither h
    simp

/-- What holds of each value holds of the value that there is, if there is one. -/
theorem of_forall {defined first second : Value → Prop}
    (h : ∀ x, ExactlyOneIf (defined x) (first x) (second x)) (subject : Option Value) :
    ExactlyOneIf (∃ x, subject = some x ∧ defined x) (∃ x, subject = some x ∧ first x)
      (∃ x, subject = some x ∧ second x) := by
  cases subject with
  | none => exact ⟨by simp, by simp⟩
  | some x => simpa using h x

end ExactlyOneIf

namespace Value

variable {x v : Value}

theorem exactlyOneIf_strings (mode : CaseMode) (relation : List Char → List Char → Bool) :
    ExactlyOneIf (∃ s t, x = .str s ∧ v = .str t)
      (x.stringsStand mode relation v = true)
      (x.stringsStand mode (fun l r => !relation l r) v = true) := by
  refine .of_bool ?_ fun h => ?_
  · rintro ⟨s, t, rfl, rfl⟩
    rfl
  · simp only [← Bool.not_eq_true, stringsStand_eq_true]
    exact ⟨fun ⟨s, t, hx, hv, _⟩ => h ⟨s, t, hx, hv⟩, fun ⟨s, t, hx, hv, _⟩ => h ⟨s, t, hx, hv⟩⟩

theorem exactlyOneIf_numbers {relation relation' : Binary64 → Binary64 → Bool}
    (h : ∀ a b, relation' a b = !relation a b) :
    ExactlyOneIf (x.Numeric ∧ v.Numeric) (x.numbersStand relation v = true)
      (x.numbersStand relation' v = true) := by
  simp only [numeric_iff]
  unfold numbersStand
  refine .of_bool ?_ fun hnone => ?_
  · rintro ⟨⟨a, ha⟩, b, hb⟩
    rw [ha, hb]
    exact h a b
  · cases hx : x.numeric? with
    | none => exact ⟨rfl, rfl⟩
    | some a =>
      cases hv : v.numeric? with
      | none => exact ⟨rfl, rfl⟩
      | some b => exact absurd ⟨⟨a, hx⟩, b, hv⟩ hnone

end Value

theorem Binary64.numLe_eq_not_numLt (a b : Binary64) : a.numLe b = !b.numLt a := by
  rw [numLe, numLt, ← decide_not, decide_eq_decide]
  exact Int.not_lt.symm

namespace Operator

variable {mode : CaseMode} {x v : Value}

theorem exactlyOneIf_equals :
    ExactlyOneIf True (equals.holds? mode x v = some true)
      (notEquals.holds? mode x v = some true) := by
  simp only [holds?, Option.some_inj]
  exact .of_bool (fun _ => rfl) fun h => absurd trivial h

theorem exactlyOneIf_contains :
    ExactlyOneIf (∃ s t, x = .str s ∧ v = .str t) (contains.holds? mode x v = some true)
      (notContains.holds? mode x v = some true) := by
  simp only [holds?, Option.some_inj]
  exact Value.exactlyOneIf_strings mode fun l r => Text.contains r l

theorem exactlyOneIf_greaterThan :
    ExactlyOneIf (x.Numeric ∧ v.Numeric) (greaterThan.holds? mode x v = some true)
      (lessThanOrEquals.holds? mode x v = some true) := by
  simp only [holds?, Option.some_inj]
  exact Value.exactlyOneIf_numbers fun a b => a.numLe_eq_not_numLt b

theorem exactlyOneIf_greaterThanOrEquals :
    ExactlyOneIf (x.Numeric ∧ v.Numeric) (greaterThanOrEquals.holds? mode x v = some true)
      (lessThan.holds? mode x v = some true) := by
  simp only [holds?, Option.some_inj]
  exact Value.exactlyOneIf_numbers fun a b => by rw [b.numLe_eq_not_numLt a, Bool.not_not]

end Operator

/-! ## Opposite matchers -/

theorem Outcome.isSuccess_iff {o : Outcome} : o.isSuccess = true ↔ o = .success := by
  cases o <;> simp [isSuccess]

section Compiled

variable {k : Compiler} {d : RuleDefinition} {r : Rule} {m : MatcherDefinition} {mode : CaseMode}
  {ctx : Context}

/-- The rule of a matcher succeeds when the matcher holds. -/
theorem succeeds_iff_of_isMatcher (hr : (k.compile d).1 = .ok r) (hm : d.condition.IsMatcher m)
    (hjudge : ctx.judge = .standard mode) : r.condition.Succeeds ctx ↔ m.Holds ctx := by
  obtain ⟨-, c, hc, rfl⟩ := Compiler.compile_eq_ok.1 hr
  exact (ConditionDefinition.succeeds_iff_holds hjudge hc).trans
    (ConditionDefinition.holds_iff_matcher hm)

/-- A matcher with one value that compares holds if the key has a value that stands in the relation
of its operator to the one given. -/
theorem MatcherDefinition.holds_iff_holds? {key name : String} {v : Value} {o : Operator}
    (ho : matcherOperator? name = some o) (hu : o.isUnary = false)
    (hjudge : ctx.judge = .standard mode) :
    (⟨key, name, [v]⟩ : MatcherDefinition).Holds ctx ↔
      ∃ x, ((Placeholder.parse key).resolve ctx).value = some x ∧
        o.holds? mode x v = some true := by
  rw [holds_iff_compared ho hu]
  simp only [List.mem_singleton, exists_eq_left, succeeds_comparison, Outcome.isSuccess_iff, hjudge,
    subject]
  exact exists_congr fun x => and_congr_right fun _ => CaseMode.accepts_iff

end Compiled

/-- **Opposite matchers partition the contexts where they make sense.** All matchers with a key that
is not empty and one value compile. Of the rules that they compile to, one of `ex` and `nx` always
succeeds, and not both. Exactly one of `eq` and `ne` succeeds if the key has a value, be it `null`,
and neither of them otherwise. The same goes for `co` and `nc` where the key's value and the one
given are strings, and for `gt` and `le` and for `ge` and `lt` where both are numeric. -/
theorem exactlyOneIf_opposite_matchers {key : String} (hkey : key ≠ "") (v : Value) (k : Compiler)
    {d : String → RuleDefinition} (hid : ∀ m ∈ matcherNames, (d m).id ≠ "")
    (hd : ∀ m ∈ matcherNames, (d m).condition.IsMatcher ⟨key, m, [v]⟩) :
    (∀ m ∈ matcherNames, ∃ r, (k.compile (d m)).1 = .ok r) ∧
      ∀ rule : String → Rule, (∀ m ∈ matcherNames, (k.compile (d m)).1 = .ok (rule m)) →
        ∀ (mode : CaseMode) (lookup : String → Option Value)
          (convert : String → Option Value → Logged (Option Value)),
          let ctx : Context := ⟨lookup, .standard mode, convert⟩
          let subject := ((Placeholder.parse key).resolve ctx).value
          let Succeeds (m : String) : Prop :=
            ((rule m).condition.evaluate ctx).value.isSuccess = true
          Xor (Succeeds "ex") (Succeeds "nx") ∧
            ExactlyOneIf (∃ x, subject = some x) (Succeeds "eq") (Succeeds "ne") ∧
            ExactlyOneIf (∃ s t, subject = some (.str s) ∧ v = .str t)
              (Succeeds "co") (Succeeds "nc") ∧
            ExactlyOneIf (∃ x, subject = some x ∧ x.Numeric ∧ v.Numeric)
              (Succeeds "gt") (Succeeds "le") ∧
            ExactlyOneIf (∃ x, subject = some x ∧ x.Numeric ∧ v.Numeric)
              (Succeeds "ge") (Succeeds "lt") := by
  refine ⟨fun m hm => ?_, fun rule hrule mode lookup convert => ?_⟩
  · have hvalid : (d m).condition.Valid := .matcher (hd m hm) hkey hm (.inr (List.cons_ne_nil v []))
    obtain ⟨c, hc⟩ := ConditionDefinition.valid_iff_compile_ok.1 hvalid
    exact ⟨k.ruleOf (d m) c, Compiler.compile_eq_ok.2 ⟨hid m hm, c, hc, rfl⟩⟩
  · intro ctx subject Succeeds
    have hholds (m : String) (hm : m ∈ matcherNames) :
        Succeeds m ↔ (⟨key, m, [v]⟩ : MatcherDefinition).Holds ctx :=
      succeeds_iff_of_isMatcher (hrule m hm) (hd m hm) rfl
    have hcompared {m : String} {o : Operator} (hm : m ∈ matcherNames)
        (ho : matcherOperator? m = some o) (hu : o.isUnary = false) :
        Succeeds m ↔ ∃ x, subject = some x ∧ o.holds? mode x v = some true :=
      (hholds m hm).trans (MatcherDefinition.holds_iff_holds? ho hu rfl)
    have hstrings : (∃ s t, subject = some (.str s) ∧ v = .str t) ↔
        ∃ x, subject = some x ∧ ∃ s t, x = .str s ∧ v = .str t := by
      constructor
      · rintro ⟨s, t, hs, ht⟩
        exact ⟨_, hs, s, t, rfl, ht⟩
      · rintro ⟨_, hx, s, t, rfl, ht⟩
        exact ⟨s, t, hx, ht⟩
    refine ⟨?_, ?_, ?_, ?_, ?_⟩
    · rw [hholds "ex" (by decide), hholds "nx" (by decide), MatcherDefinition.holds_iff_present rfl,
        MatcherDefinition.holds_iff_absent rfl]
      show Xor (Value.isPresent subject = true) (Value.isPresent subject = false)
      cases Value.isPresent subject <;> simp
    · rw [hcompared (by decide) rfl rfl, hcompared (by decide) rfl rfl]
      simpa using ExactlyOneIf.of_forall (fun x => Operator.exactlyOneIf_equals) subject
    · rw [hcompared (by decide) rfl rfl, hcompared (by decide) rfl rfl, hstrings]
      exact .of_forall (fun x => Operator.exactlyOneIf_contains) subject
    · rw [hcompared (by decide) rfl rfl, hcompared (by decide) rfl rfl]
      exact .of_forall (fun x => Operator.exactlyOneIf_greaterThan) subject
    · rw [hcompared (by decide) rfl rfl, hcompared (by decide) rfl rfl]
      exact .of_forall (fun x => Operator.exactlyOneIf_greaterThanOrEquals) subject

/-- Rules that match the amount of an order against a number in writing. -/
def amountRule (matcher : String) : RuleDefinition :=
  .new "amount" "" (.matcher "order.amount" matcher [.str " 1e3 "])

/-- What the condition of `amountRule` compiles to, for a matcher that there is. -/
def amountCondition (matcher : String) : Condition :=
  match (amountRule matcher).condition.compile with
  | .ok c => c
  | .error _ => .any []

/-- An amount of 1000 is compared with `" 1e3 "` as a number, but not searched. -/
theorem exactlyOneIf_opposite_matchers_amount :
    let rule (m : String) : Rule := Compiler.new.ruleOf (amountRule m) (amountCondition m)
    let ctx : Context := ⟨fun _ => some (.num (.whole 1000 (by decide))), .standard .ignored,
      fun _ x => pure x⟩
    (∀ m ∈ matcherNames, (Compiler.new.compile (amountRule m)).1 = .ok (rule m)) ∧
      Xor ((rule "ge").condition.Succeeds ctx) ((rule "lt").condition.Succeeds ctx) ∧
      Xor ((rule "eq").condition.Succeeds ctx) ((rule "ne").condition.Succeeds ctx) ∧
      ¬ (rule "co").condition.Succeeds ctx ∧ ¬ (rule "nc").condition.Succeeds ctx := by
  intro rule ctx
  have hid : ∀ m ∈ matcherNames, (amountRule m).id ≠ "" := fun m _ => show "amount" ≠ "" by decide
  have hmatcher : ∀ m ∈ matcherNames,
      (amountRule m).condition.IsMatcher ⟨"order.amount", m, [.str " 1e3 "]⟩ :=
    fun m _ => ⟨rfl, MatcherDefinition.ofValue_toValue _⟩
  obtain ⟨hcompile, hone⟩ :=
    exactlyOneIf_opposite_matchers (by decide) (.str " 1e3 ") Compiler.new hid hmatcher
  have hrule : ∀ m ∈ matcherNames, (Compiler.new.compile (amountRule m)).1 = .ok (rule m) := by
    intro m hm
    obtain ⟨r, hr⟩ := hcompile m hm
    obtain ⟨-, c, hc, rfl⟩ := Compiler.compile_eq_ok.1 hr
    have hcondition : amountCondition m = c := by rw [amountCondition, hc]
    rw [hr, ← hcondition]
  obtain ⟨-, hequal, hsearch, -, horder⟩ := hone rule hrule .ignored ctx.lookup ctx.convert
  have hkey : Placeholder.parse "order.amount" = .ref "order.amount" := by cbv
  rw [hkey] at hequal hsearch horder
  have hnumeric : (Value.str " 1e3 ").Numeric :=
    Value.numeric_iff.2 (Option.isSome_iff_exists.1 (by decide +kernel))
  refine ⟨hrule, horder.one ⟨_, rfl, .num _, hnumeric⟩, hequal.one ⟨_, rfl⟩, hsearch.neither ?_⟩
  rintro ⟨s, t, hs, -⟩
  cases hs

end Rulebook
