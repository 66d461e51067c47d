import Rulebook.Condition
import Rulebook.Template.Fill

/-!
# The engine

An engine keeps an ordered list of rules, each of which may stand in it several times, and says
which of them hold of some data. Evaluating changes nothing in the engine, and every rule is
evaluated on its own, in the order in which the rules were added.
-/

namespace Rulebook

/-- What has a condition can be kept in an engine. -/
class HasCondition (ρ : Type) where
  condition : ρ → Condition

structure Engine (ρ : Type) where
  judge : Judge
  convert : String → Option Value → Logged (Option Value)
  delimiters : Delimiters
  rules : List ρ

namespace Engine

variable {ρ : Type}

/-- The tag of the engine's log lines. -/
def logTag : String := "RulesEngine"

/-- An engine without rules, whose templates have braces. -/
def new (judge : Judge) (convert : String → Option Value → Logged (Option Value)) : Engine ρ :=
  ⟨judge, convert, .braces, []⟩

def withDelimiters (e : Engine ρ) (d : Delimiters) : Engine ρ := { e with delimiters := d }

/-- Adds rules after those that are there. -/
def add (e : Engine ρ) (rules : List ρ) : Logged (Engine ρ) := do
  let all := e.rules ++ rules
  let added := rules.length
  let total := all.length
  .tell ⟨.debug, logTag, s!"Added {added} rules, {total} rules in total"⟩
  return { e with rules := all }

def clear (e : Engine ρ) : Logged (Engine ρ) := do
  .tell ⟨.debug, logTag, "Cleared all rules"⟩
  return { e with rules := [] }

def context (e : Engine ρ) (lookup : String → Option Value) : Context :=
  ⟨lookup, e.judge, e.convert⟩

/-- The rules that hold, in order; each one that does not is logged. -/
def matching [HasCondition ρ] (ctx : Context) : List ρ → Run (List ρ)
  | [] => return []
  | r :: rest => do
    let outcome ← (HasCondition.condition r).evaluate ctx
    if outcome.isSuccess then return r :: (← matching ctx rest)
    else do
      .tell (.log ⟨.verbose, logTag, "Rule not matched: " ++ outcome.text⟩)
      matching ctx rest

/-- The engine's rules that hold, in order. -/
def evaluate [HasCondition ρ] (e : Engine ρ) (lookup : String → Option Value) :
    Run (List ρ) := do
  let matched ← matching (e.context lookup) e.rules
  let total := e.rules.length
  let count := matched.length
  .tell (.log ⟨.debug, logTag, s!"Evaluated {total} rules, {count} matched"⟩)
  return matched

/-- Fills in a template with the engine's delimiters. -/
def fill (e : Engine ρ) (lookup : String → Option Value) (template : String) : Run String :=
  Template.fill e.delimiters (e.context lookup) template

end Engine
end Rulebook
