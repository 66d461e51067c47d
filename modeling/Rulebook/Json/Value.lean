import Rulebook.Number.Binary64

/-!
# JSON values

A number is a whole number of the range that 64 bits cover with or without a sign, or a finite
binary64 number; the two kinds never equal each other. The members of an object are kept in
increasing order of their keys, each key once: `Value.ofMembers` puts them in that form, the last
of several members with one key winning.
-/

namespace Rulebook

inductive Number where
  | whole (i : Int) (range : -(2 ^ 63) ≤ i ∧ i < 2 ^ 64)
  | real (x : Binary64)

namespace Number

/-- The whole number, if it is in range. -/
def ofInt? (i : Int) : Option Number :=
  if h : -(2 ^ 63) ≤ i ∧ i < 2 ^ 64 then some (.whole i h) else none

/-- The nearest binary64 number. -/
def toBinary64 : Number → Binary64
  | .whole i h => .ofWhole i (by omega)
  | .real x => x

/-- Numbers of one kind are the same when they denote the same; the two zeros do. -/
def same : Number → Number → Bool
  | .whole i _, .whole j _ => i == j
  | .real x, .real y => x.numEq y
  | _, _ => false

end Number

inductive Value where
  | null
  | bool (b : Bool)
  | num (n : Number)
  | str (s : String)
  | arr (elements : List Value)
  | obj (members : List (String × Value))

namespace Value

instance : Inhabited Value := ⟨.null⟩

/-- Puts a member into an ordered list of members, in the place of one with its key. -/
def insertMember (key : String) (value : Value) :
    List (String × Value) → List (String × Value)
  | [] => [(key, value)]
  | (k, v) :: rest =>
    if key < k then (key, value) :: (k, v) :: rest
    else if key = k then (key, value) :: rest
    else (k, v) :: insertMember key value rest

/-- The object with these members, given in any order. -/
def ofMembers (members : List (String × Value)) : Value :=
  .obj (members.foldl (fun sorted (k, v) => insertMember k v sorted) [])

/-- The value of the member with this key. -/
def member? (key : String) : List (String × Value) → Option Value
  | [] => none
  | (k, v) :: rest => if k = key then some v else member? key rest

mutual

/-- Structural equality, numbers being compared as numbers. -/
def same : Value → Value → Bool
  | .null, .null => true
  | .bool a, .bool b => a == b
  | .num a, .num b => a.same b
  | .str a, .str b => a == b
  | .arr a, .arr b => sameElements a b
  | .obj a, .obj b => sameMembers a b
  | _, _ => false

def sameElements : List Value → List Value → Bool
  | [], [] => true
  | a :: as, b :: bs => same a b && sameElements as bs
  | _, _ => false

def sameMembers : List (String × Value) → List (String × Value) → Bool
  | [], [] => true
  | (k, a) :: as, (l, b) :: bs => k == l && same a b && sameMembers as bs
  | _, _ => false

end

mutual

/-- The strings in a value, from left to right and from the outside in. -/
def strings : Value → List String
  | .str s => [s]
  | .arr elements => elementStrings elements
  | .obj members => memberStrings members
  | _ => []

def elementStrings : List Value → List String
  | [] => []
  | v :: rest => strings v ++ elementStrings rest

def memberStrings : List (String × Value) → List String
  | [] => []
  | (_, v) :: rest => strings v ++ memberStrings rest

end

end Value
end Rulebook
