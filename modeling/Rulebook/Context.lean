import Rulebook.Outcome
import Rulebook.Template.Placeholder
import Rulebook.Trace

/-!
# The context of an evaluation

An evaluation is given three abilities: to look up a path, to judge comparisons and checks, and to
convert a value by a named function. The latter two may write log lines. All are functions of
their arguments, so nothing an evaluation does changes what comes after it.
-/

namespace Rulebook

/-- Judges comparisons and checks by the name of their operator. -/
structure Judge where
  compare : Value → String → Value → Logged Outcome
  check : String → Option Value → Logged Outcome

structure Context where
  lookup : String → Option Value
  judge : Judge
  convert : String → Option Value → Logged (Option Value)

namespace Context

/-- Looks up a path. -/
def get (ctx : Context) (path : String) : Run (Option Value) := ⟨ctx.lookup path, [.lookup path]⟩

/-- Converts a value by a named function. -/
def call (ctx : Context) (name : String) (input : Option Value) : Run (Option Value) := do
  .tell (.convert name input)
  .ofLogged (ctx.convert name input)

/-- Has a comparison judged. -/
def compare (ctx : Context) (lhs : Value) (operator : String) (rhs : Value) : Run Outcome := do
  .tell (.compare lhs operator rhs)
  .ofLogged (ctx.judge.compare lhs operator rhs)

/-- Has a check judged. -/
def check (ctx : Context) (operator : String) (subject : Option Value) : Run Outcome := do
  .tell (.check operator subject)
  .ofLogged (ctx.judge.check operator subject)

end Context

/-- The value of a placeholder: the value at its path, converted from the inside out. -/
def Placeholder.resolve (ctx : Context) : Placeholder → Run (Option Value)
  | .ref path => ctx.get path
  | .call name argument => do ctx.call name (← argument.resolve ctx)

end Rulebook
