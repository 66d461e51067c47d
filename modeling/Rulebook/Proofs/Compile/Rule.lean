import Rulebook.Rule
import Rulebook.Proofs.Compile.Cases

/-!
# What a compiler makes of a definition

A compiler gives a rule exactly when the definition has an identifier and its condition compiles
(`compile_eq_ok`), and an error for the first of the two that fails (`compile_eq_error`).
-/

namespace Rulebook

namespace Compiler

/-- The rule of a definition whose condition is compiled. -/
def ruleOf (k : Compiler) (d : RuleDefinition) (c : Condition) : Rule where
  id := d.id
  name := d.name
  condition := c
  consequences := d.consequences
  requiredFields := c.variablePaths
  version := k.compiled + 1

theorem compile_of_id_eq_empty (k : Compiler) {d : RuleDefinition} (h : d.id = "") :
    k.compile d = (.error .emptyId, k) := by
  simp [compile, compileRead, RuleDefinition.compile, h]

theorem compile_of_error (k : Compiler) {d : RuleDefinition} (h : d.id ≠ "") {f : LocatedFault}
    (hf : d.condition.compile = .error f) : k.compile d = (.error (.condition f), k) := by
  simp [compile, compileRead, RuleDefinition.compile, h, hf]

theorem compile_of_ok (k : Compiler) {d : RuleDefinition} (h : d.id ≠ "") {c : Condition}
    (hc : d.condition.compile = .ok c) :
    k.compile d = (.ok (k.ruleOf d c), ⟨k.compiled + 1⟩) := by
  simp [compile, compileRead, RuleDefinition.compile, h, hc, ruleOf]

theorem compile_eq_ok {k : Compiler} {d : RuleDefinition} {r : Rule} :
    (k.compile d).1 = .ok r ↔
      d.id ≠ "" ∧ ∃ c, d.condition.compile = .ok c ∧ r = k.ruleOf d c := by
  by_cases hid : d.id = ""
  · simp [k.compile_of_id_eq_empty hid, hid]
  · cases hc : d.condition.compile with
    | error f => simp [k.compile_of_error hid hc]
    | ok c => simp [k.compile_of_ok hid hc, hid, eq_comm]

theorem compile_eq_error {k : Compiler} {d : RuleDefinition} {e : RuleError} :
    (k.compile d).1 = .error e ↔
      (d.id = "" ∧ e = .emptyId) ∨
        (d.id ≠ "" ∧ ∃ f, d.condition.compile = .error f ∧ e = .condition f) := by
  by_cases hid : d.id = ""
  · simp [k.compile_of_id_eq_empty hid, hid, eq_comm]
  · cases hc : d.condition.compile with
    | error f => simp [k.compile_of_error hid hc, hid, eq_comm]
    | ok c => simp [k.compile_of_ok hid hc, hid]

end Compiler

/-! ## An example -/

/-- A definition with a group in a group and every form of matchers. -/
def vipOrder : RuleDefinition where
  id := "vip-order"
  name := "VIP"
  condition := .group "and"
    [.matcher "order.amount" "ge" [.num (.whole 10 (by decide))],
      .group "or"
        [.matcher "string(user.level)" "eq" [.str "gold", .str "platinum"],
          .matcher "user.note" "nx" []]]
  consequences := [.str "badge"]

/-- What the condition of `vipOrder` compiles to. -/
def vipOrderCondition : Condition :=
  .all
    [.comparison (.placeholder (.ref "order.amount")) "greaterThanOrEquals"
        (.literal (.num (.whole 10 (by decide)))),
      .any
        [.any
            [.comparison (.placeholder (.call "string" (.ref "user.level"))) "equals"
                (.literal (.str "gold")),
              .comparison (.placeholder (.call "string" (.ref "user.level"))) "equals"
                (.literal (.str "platinum"))],
          .check "notExists" (.placeholder (.ref "user.note"))]]

theorem compile_vipOrder :
    (Compiler.new.compile vipOrder).1 = .ok (Compiler.new.ruleOf vipOrder vipOrderCondition) :=
  Compiler.compile_eq_ok.2 ⟨by decide, vipOrderCondition, by cbv, rfl⟩

end Rulebook
