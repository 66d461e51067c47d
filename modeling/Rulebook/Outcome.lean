/-!
# Outcomes

What an evaluation comes to: success, or failure of a kind with a message.
-/

namespace Rulebook

inductive FailureKind where
  | unknown
  | conditionFailed
  | typeMismatched
  | missingOperator
  | invalidOperand
  deriving DecidableEq

def FailureKind.name : FailureKind → String
  | .unknown => "UNKNOWN"
  | .conditionFailed => "CONDITION_FAILED"
  | .typeMismatched => "TYPE_MISMATCHED"
  | .missingOperator => "MISSING_OPERATOR"
  | .invalidOperand => "INVALID_OPERAND"

inductive Outcome where
  | success
  | failure (kind : FailureKind) (message : String)
  deriving DecidableEq

namespace Outcome

def isSuccess : Outcome → Bool
  | .success => true
  | .failure _ _ => false

def kind? : Outcome → Option FailureKind
  | .success => none
  | .failure kind _ => some kind

def message? : Outcome → Option String
  | .success => none
  | .failure _ message => some message

def text : Outcome → String
  | .success => "SUCCESS"
  | .failure kind message => kind.name ++ ": " ++ message

end Outcome
end Rulebook
