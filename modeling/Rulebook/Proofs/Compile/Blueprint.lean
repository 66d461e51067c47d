import Rulebook.Proofs.Compile.Cases
import Rulebook.Proofs.Compile.Rule
import Rulebook.Proofs.Definition.Encoding

/-!
# Conditions put together by the builders

A `Blueprint` is a condition as its author puts it together: groups and matchers from their parts,
and conditions that are given by their kind and body. Its definition is what the builders make of
it, where each group holds all that is below it as one value. `Blueprint.compile` compiles the
blueprint itself, from its parts, and writes no value at all.

**Theorem (`compile_blueprint_and_read_back`).** Compiling the definition of a blueprint gives what
compiling the blueprint gives, be it a condition or a fault at a place. What is written of a
definition of a rule reads as that definition, and has all four fields.

A body that a builder has written reads as the parts that it was written from, so that the outline
of the definition is a group of outlines (`ofDefinition_definition_group`) or the matcher itself.
The theorem is then an induction on the blueprint.
-/

namespace Rulebook

/-- A condition as it is put together. -/
inductive Blueprint where
  | group (logic : String) (members : List Blueprint)
  | matcher (key name : String) (values : List Value)
  /-- A condition given by its kind and its body. -/
  | plain (kind : String) (body : Value)

namespace Blueprint

mutual

/-- What the builders make of a blueprint. -/
def definition : Blueprint → ConditionDefinition
  | .group logic members => .group logic (definitions members)
  | .matcher key name values => .matcher key name values
  | .plain kind body => ⟨kind, body⟩

def definitions : List Blueprint → List ConditionDefinition
  | [] => []
  | b :: rest => definition b :: definitions rest

end

mutual

/-- Compiles a blueprint at a place, without a definition of it. -/
def compile (path : List Nat) : Blueprint → Except LocatedFault Condition
  | .group logic members =>
    match Connective.ofName? logic with
    | none => .error ⟨path, .unknownConnective logic⟩
    | some c =>
      if members.isEmpty then .error ⟨path, .emptyGroup⟩
      else (compileMembers path 0 members).map (.group c.name)
  | .matcher key name values =>
    (MatcherDefinition.mk key name values).compile.mapError (LocatedFault.mk path)
  | .plain kind body =>
    (ConditionDefinition.mk kind body).compile.mapError (LocatedFault.under path)

/-- Compiles the members of the group at a place, from a position on. -/
def compileMembers (path : List Nat) (i : Nat) :
    List Blueprint → Except LocatedFault (List Condition)
  | [] => .ok []
  | b :: rest => do
    return (← compile (path ++ [i]) b) :: (← compileMembers path (i + 1) rest)

end

/-! ## The outline of what is built -/

theorem isEmpty_definitions (bs : List Blueprint) :
    ((definitions bs).map Outline.ofDefinition).isEmpty = bs.isEmpty := by
  cases bs <;> rfl

theorem ofDefinition_definition_group (logic : String) (members : List Blueprint) :
    Outline.ofDefinition (definition (.group logic members)) =
      .group logic ((definitions members).map Outline.ofDefinition) := by
  have hgroup : (definition (.group logic members)).IsGroup ⟨logic, definitions members⟩ :=
    ⟨rfl, GroupDefinition.ofValue_toValue ⟨logic, definitions members⟩⟩
  exact ConditionDefinition.ofDefinition_isGroup hgroup

theorem ofDefinition_definition_matcher (key name : String) (values : List Value) :
    Outline.ofDefinition (definition (.matcher key name values)) = .matcher ⟨key, name, values⟩ :=
  ConditionDefinition.ofDefinition_isMatcher
    ⟨rfl, MatcherDefinition.ofValue_toValue ⟨key, name, values⟩⟩

/-! ## Compiling it -/

mutual

/-- **What is built compiles as its blueprint**, at every place. -/
theorem compile_ofDefinition_definition (path : List Nat) (b : Blueprint) :
    (Outline.ofDefinition b.definition).compile path = b.compile path := by
  cases b with
  | group logic members =>
    have hmembers := compileMembers_ofDefinition_definitions path 0 members
    rw [ofDefinition_definition_group]
    cases hlogic : Connective.ofName? logic with
    | none => simp only [Outline.compile, compile, hlogic]
    | some c => simp only [Outline.compile, compile, hlogic, isEmpty_definitions, hmembers]
  | matcher key name values => rw [ofDefinition_definition_matcher, Outline.compile, compile]
  | plain kind body =>
    rw [definition, compile, ConditionDefinition.compile, ← Outline.compile_append, List.append_nil]

theorem compileMembers_ofDefinition_definitions (path : List Nat) (i : Nat) (bs : List Blueprint) :
    Outline.compileMembers path i ((definitions bs).map Outline.ofDefinition) =
      compileMembers path i bs := by
  cases bs with
  | nil => rfl
  | cons b rest =>
    rw [definitions, List.map_cons, Outline.compileMembers, compileMembers,
      compile_ofDefinition_definition (path ++ [i]) b,
      compileMembers_ofDefinition_definitions path (i + 1) rest]

end

theorem compile_definition (b : Blueprint) : b.definition.compile = b.compile [] :=
  b.compile_ofDefinition_definition []

end Blueprint

/-- **Building and writing lose nothing.** A definition made of a blueprint compiles to a rule with
the condition that the blueprint compiles to, or is refused for the fault that it is refused for, at
the same place. A definition reads back from what is written of it. What is written of the
definition that any value reads as has all four fields, and comes out the same when it is read and
written again. -/
theorem compile_blueprint_and_read_back :
    (∀ (k : Compiler) (id name : String) (b : Blueprint), id ≠ "" →
        (k.compile (.new id name b.definition)).1 =
          match b.compile [] with
          | .ok c => .ok ⟨id, name, c, [], c.variablePaths, k.compiled + 1⟩
          | .error f => .error (.condition f)) ∧
      (∀ freshId d, RuleDefinition.ofValue freshId d.toValue = .ok d) ∧
      ∀ freshId v w, RuleDefinition.rewritten freshId v = .ok w →
        (∀ freshId', RuleDefinition.rewritten freshId' w = .ok w) ∧
          ∃ members, w = .obj members ∧
            members.map Prod.fst = ["condition", "consequences", "id", "name"] := by
  refine ⟨fun k id name b hid => ?_, RuleDefinition.ofValue_toValue,
    fun freshId v w h => RuleDefinition.rewritten_of_rewritten h⟩
  have hd : (RuleDefinition.new id name b.definition).condition.compile = b.compile [] :=
    b.compile_definition
  cases hb : b.compile [] with
  | error f => rw [k.compile_of_error hid (hd.trans hb)]
  | ok c =>
    rw [k.compile_of_ok hid (hd.trans hb)]
    rfl

/-- A group in a group, with a condition whose body is not built. -/
def pairedChecks (name : String) : Blueprint :=
  .group "and" [.matcher "a" "ex" [],
    .group "or" [.plain "matcher" (.arr [.str "b", .str "nx"]), .matcher "c" name [.null]]]

/-- What `pairedChecks "eq"` compiles to. -/
def pairedChecksCondition : Condition :=
  .all [.check "exists" (.placeholder (.ref "a")),
    .any [.check "notExists" (.placeholder (.ref "b")),
      .comparison (.placeholder (.ref "c")) "equals" (.literal .null)]]

/-- The fields of a definition by their positions, two of them left out. -/
def noteFields : Value := .arr [.str "n", .str "", .arr [.str "matcher"]]

theorem compile_blueprint_and_read_back_pairedChecks :
    let k : Compiler := ⟨3⟩
    (k.compile (.new "id" "pair" (pairedChecks "eq").definition)).1 =
        .ok ⟨"id", "pair", pairedChecksCondition, [], ["a", "b", "c"], 4⟩ ∧
      (k.compile (.new "id" "pair" (pairedChecks "??").definition)).1 =
        .error (.condition ⟨[1, 1], .unknownMatcher "??"⟩) ∧
      ∃ w, RuleDefinition.rewritten "fresh" noteFields = .ok w ∧
        RuleDefinition.rewritten "other" w = .ok w := by
  intro k
  obtain ⟨hcompile, -, hrewritten⟩ := compile_blueprint_and_read_back
  have hok : (pairedChecks "eq").compile [] = .ok pairedChecksCondition := by cbv
  have herror : (pairedChecks "??").compile [] = .error ⟨[1, 1], .unknownMatcher "??"⟩ := by cbv
  have hpaths : pairedChecksCondition.variablePaths = ["a", "b", "c"] := by cbv
  refine ⟨?_, ?_, _, rfl, (hrewritten "fresh" noteFields _ rfl).1 "other"⟩
  · rw [hcompile k "id" "pair" (pairedChecks "eq") (by decide), hok, ← hpaths]
  · rw [hcompile k "id" "pair" (pairedChecks "??") (by decide), herror]

end Rulebook
