import Rulebook.Context
import Rulebook.Json.Printer
import Rulebook.Operator
import Rulebook.Template.Scan

/-!
# Conditions

A condition compares two terms, checks one, or joins conditions by a connective. It is evaluated
from left to right. Both sides of a comparison are always resolved; a group stops at the first
member that decides it; a group with an unknown connective evaluates none of its members.

`Condition.variablePaths` lists the paths that any evaluation may look up.
-/

namespace Rulebook

/-- What a condition speaks about: a fixed value, the value of a placeholder, or nothing. -/
inductive Term where
  | literal (v : Value)
  | placeholder (p : Placeholder)
  | empty

namespace Term

/-- The term that a text writes, as a template of one placeholder or as the content of one. -/
def ofText (text : String) : Logged Term :=
  if text = "" then pure .empty
  else do return .placeholder (.ofSegments text (← Template.split .braces text))

def resolve (ctx : Context) : Term → Run (Option Value)
  | .literal v => pure (some v)
  | .placeholder p => p.resolve ctx
  | .empty => pure none

def text : Term → String
  | .literal v => v.text
  | .placeholder p => Delimiters.braces.wrap p.content
  | .empty => "<empty>"

def path? : Term → Option String
  | .placeholder p => some p.path
  | .literal _ | .empty => none

end Term

inductive Condition where
  | comparison (lhs : Term) (operator : String) (rhs : Term)
  | check (operator : String) (subject : Term)
  | group (connective : String) (members : List Condition)

namespace Condition

/-- The condition that all of some conditions hold. -/
def all (members : List Condition) : Condition := .group Connective.and.name members

/-- The condition that some of some conditions holds. -/
def any (members : List Condition) : Condition := .group Connective.or.name members

/-- The failure of a comparison one side of which has no value. -/
def unresolved (lhs : Term) (operator : String) (rhs : Term) : Outcome :=
  .failure .invalidOperand
    ("Comparison " ++ lhs.text ++ " " ++ operator ++ " " ++ rhs.text ++
      " has an unresolved operand")

/-- The outcome of a group, by whether it holds. -/
def groupOutcome (c : Connective) (holds : Bool) : Outcome :=
  if holds then .success
  else .failure .conditionFailed
    (match c with
    | .and => "AND operation returned false."
    | .or => "OR operation returned false.")

mutual

def evaluate (ctx : Context) : Condition → Run Outcome
  | .comparison lhs operator rhs => do
    match ← lhs.resolve ctx, ← rhs.resolve ctx with
    | some l, some r => ctx.compare l operator r
    | _, _ => return unresolved lhs operator rhs
  | .check operator subject => do ctx.check operator (← subject.resolve ctx)
  | .group connective members =>
    match Connective.ofName? connective with
    | some .and => do return groupOutcome .and (← allHold ctx members)
    | some .or => do return groupOutcome .or (← anyHolds ctx members)
    | none =>
      return .failure .missingOperator s!"Unknown conjunction operator {connective}"

/-- Do all conditions hold? Stops at the first that does not. -/
def allHold (ctx : Context) : List Condition → Run Bool
  | [] => return true
  | c :: rest => do
    if (← evaluate ctx c).isSuccess then allHold ctx rest else return false

/-- Does some condition hold? Stops at the first that does. -/
def anyHolds (ctx : Context) : List Condition → Run Bool
  | [] => return false
  | c :: rest => do
    if (← evaluate ctx c).isSuccess then return true else anyHolds ctx rest

end

/-! ## The paths of a condition -/

mutual

/-- The paths of all terms, in the order in which they stand. -/
def termPaths : Condition → List String
  | .comparison lhs _ rhs => lhs.path?.toList ++ rhs.path?.toList
  | .check _ subject => subject.path?.toList
  | .group _ members => membersPaths members

def membersPaths : List Condition → List String
  | [] => []
  | c :: rest => termPaths c ++ membersPaths rest

end

/-- Puts a path into an increasing list of paths, unless it is there already. -/
def insertPath (path : String) : List String → List String
  | [] => [path]
  | p :: rest =>
    if path < p then path :: p :: rest
    else if path = p then p :: rest
    else p :: insertPath path rest

theorem mem_insertPath {path q : String} {paths : List String} :
    q ∈ insertPath path paths ↔ q = path ∨ q ∈ paths := by
  induction paths with
  | nil => simp [insertPath]
  | cons p rest ih =>
    simp only [insertPath]
    split
    · simp
    · split
      · simp_all
      · simp [ih, or_left_comm]

/-- The paths of a condition, each once and in increasing order. -/
def variablePaths (c : Condition) : List String := c.termPaths.foldr insertPath []

theorem mem_variablePaths {c : Condition} {path : String} :
    path ∈ c.variablePaths ↔ path ∈ c.termPaths := by
  unfold variablePaths
  induction c.termPaths with
  | nil => simp
  | cons p rest ih => simp [mem_insertPath, ih]

end Condition
end Rulebook
