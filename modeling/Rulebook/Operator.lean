/-!
# Operators and connectives

Ten operators compare two values and two check one; two connectives join conditions. A condition
names its operator by a text, so that it may name one that does not exist. The names are in two
tables, one for writing and one for reading: what is written is read again (`ofName?_name`), and
nothing else is read (`eq_name_of_ofName?`), so that the reading table has the names of all
operators and no other (`Operator.isSome_ofName?_iff`).
-/

namespace Rulebook

inductive Operator where
  | equals
  | notEquals
  | startsWith
  | endsWith
  | contains
  | notContains
  | greaterThan
  | greaterThanOrEquals
  | lessThan
  | lessThanOrEquals
  | exists
  | notExists
  deriving DecidableEq

namespace Operator

def all : List Operator :=
  [.equals, .notEquals, .startsWith, .endsWith, .contains, .notContains, .greaterThan,
    .greaterThanOrEquals, .lessThan, .lessThanOrEquals, .exists, .notExists]

theorem mem_all (o : Operator) : o ∈ all := by cases o <;> decide

def name : Operator → String
  | .equals => "equals"
  | .notEquals => "notEquals"
  | .startsWith => "startsWith"
  | .endsWith => "endsWith"
  | .contains => "contains"
  | .notContains => "notContains"
  | .greaterThan => "greaterThan"
  | .greaterThanOrEquals => "greaterThanOrEquals"
  | .lessThan => "lessThan"
  | .lessThanOrEquals => "lessThanOrEquals"
  | .exists => "exists"
  | .notExists => "notExists"

def ofName? : String → Option Operator
  | "equals" => some .equals
  | "notEquals" => some .notEquals
  | "startsWith" => some .startsWith
  | "endsWith" => some .endsWith
  | "contains" => some .contains
  | "notContains" => some .notContains
  | "greaterThan" => some .greaterThan
  | "greaterThanOrEquals" => some .greaterThanOrEquals
  | "lessThan" => some .lessThan
  | "lessThanOrEquals" => some .lessThanOrEquals
  | "exists" => some .exists
  | "notExists" => some .notExists
  | _ => none

/-- Does the operator check one value only? -/
def isUnary : Operator → Bool
  | .exists | .notExists => true
  | _ => false

theorem ofName?_name (o : Operator) : ofName? o.name = some o := by cases o <;> rfl

theorem eq_name_of_ofName? {s : String} {o : Operator} (h : ofName? s = some o) : s = o.name := by
  unfold ofName? at h
  split at h <;> cases h <;> rfl

theorem isSome_ofName?_iff {s : String} : (ofName? s).isSome = true ↔ s ∈ all.map name := by
  rw [Option.isSome_iff_exists, List.mem_map]
  constructor
  · rintro ⟨o, ho⟩
    exact ⟨o, mem_all o, (eq_name_of_ofName? ho).symm⟩
  · rintro ⟨o, -, rfl⟩
    exact ⟨o, ofName?_name o⟩

end Operator

inductive Connective where
  | and
  | or
  deriving DecidableEq

namespace Connective

def name : Connective → String
  | .and => "and"
  | .or => "or"

def ofName? : String → Option Connective
  | "and" => some .and
  | "or" => some .or
  | _ => none

theorem ofName?_name (c : Connective) : ofName? c.name = some c := by cases c <;> rfl

theorem eq_name_of_ofName? {s : String} {c : Connective} (h : ofName? s = some c) :
    s = c.name := by
  unfold ofName? at h
  split at h <;> cases h <;> rfl

end Connective
end Rulebook
