import Rulebook.Context
import Rulebook.Number.Numeral
import Rulebook.Operator
import Rulebook.Text.Blank
import Rulebook.Text.Lowercase
import Rulebook.Text.Search

/-!
# Comparing values

Equality is structural. The four string operators hold only between strings, and the four
numeric ones only between numbers, a text counting as the finite number that it denotes when
trimmed. Case may be ignored, between two strings and there alone, by lower-casing both.

Nothing here fails: what has the wrong kind does not hold. Only an operator that does not exist,
or that takes another number of values, makes a judgement fail in a way of its own.
-/

namespace Rulebook

/-- Whether the case of letters counts between strings. -/
inductive CaseMode where
  | exact
  | ignored
  deriving DecidableEq

namespace CaseMode

/-- The mode's name in settings. -/
def name : CaseMode → String
  | .exact => "default"
  | .ignored => "case_insensitive"

def ofName? (name : String) : Option CaseMode :=
  [CaseMode.exact, .ignored].find? fun m => m.name == name

/-- The characters of a text that are compared. -/
def fold (mode : CaseMode) (s : String) : List Char :=
  match mode with
  | .exact => s.toList
  | .ignored => Text.lowercase s.toList

end CaseMode

namespace Value

/-- The finite number that a value counts as. -/
def numeric? : Value → Option Binary64
  | .num n => some n.toBinary64
  | .str s => (Numeral.read? (Text.trim s.toList)).bind Numeral.finite?
  | _ => none

/-- Is there a value, and not `null`? -/
def isPresent : Option Value → Bool
  | none | some .null => false
  | some _ => true

/-- Equality, case being ignored only between two strings. -/
def equals (mode : CaseMode) : Value → Value → Bool
  | .str a, .str b => mode.fold a == mode.fold b
  | a, b => a.same b

/-- Do both values denote numbers that stand in a relation? -/
def numbersStand (relation : Binary64 → Binary64 → Bool) (a b : Value) : Bool :=
  match a.numeric?, b.numeric? with
  | some x, some y => relation x y
  | _, _ => false

/-- Are both values strings that stand in a relation? -/
def stringsStand (mode : CaseMode) (relation : List Char → List Char → Bool) :
    Value → Value → Bool
  | .str a, .str b => relation (mode.fold a) (mode.fold b)
  | _, _ => false

end Value

/-- Does a comparison hold? A check is no comparison. -/
def Operator.holds? (mode : CaseMode) (a b : Value) : Operator → Option Bool
  | .equals => some (a.equals mode b)
  | .notEquals => some (!a.equals mode b)
  | .startsWith => some (a.stringsStand mode (fun l r => r.isPrefixOf l) b)
  | .endsWith => some (a.stringsStand mode (fun l r => r.isSuffixOf l) b)
  | .contains => some (a.stringsStand mode (fun l r => Text.contains r l) b)
  | .notContains => some (a.stringsStand mode (fun l r => !Text.contains r l) b)
  | .greaterThan => some (a.numbersStand (fun x y => y.numLt x) b)
  | .greaterThanOrEquals => some (a.numbersStand (fun x y => y.numLe x) b)
  | .lessThan => some (a.numbersStand Binary64.numLt b)
  | .lessThanOrEquals => some (a.numbersStand Binary64.numLe b)
  | .exists | .notExists => none

/-- Does a check hold? A comparison is no check. -/
def Operator.checks? (subject : Option Value) : Operator → Option Bool
  | .exists => some (Value.isPresent subject)
  | .notExists => some (!Value.isPresent subject)
  | _ => none

namespace Judge

/-- The outcome of an operator that was applied. -/
def outcome (holds : Bool) (operator : String) : Outcome :=
  if holds then .success
  else .failure .conditionFailed s!"Condition not matched for operation {operator}"

/-- The outcome of an operator that could not be applied. -/
def unhandled (operator : String) : Logged Outcome := do
  let message := s!"Operator is not handled - {operator}"
  .tell ⟨.warning, "ConditionEvaluator", message⟩
  return .failure .missingOperator message

/-- The outcome by the result of an operator, which has none where it does not apply. -/
def ofResult (operator : String) : Option Bool → Logged Outcome
  | some holds => pure (outcome holds operator)
  | none => unhandled operator

/-- Judges by the operators of this module. -/
def standard (mode : CaseMode) : Judge where
  compare lhs operator rhs :=
    ofResult operator ((Operator.ofName? operator).bind (Operator.holds? mode lhs rhs))
  check operator subject :=
    ofResult operator ((Operator.ofName? operator).bind (Operator.checks? subject))

end Judge
end Rulebook
