import Rulebook.Definition.Basic
import Rulebook.Json.Shape

/-!
# Definitions from values

A definition is given as an object of its fields, of which unknown ones are ignored, or as a list
of them in the order of declaration, from which fields with a default may be missing at the end.
The fields of an object are looked at in the order of their keys; only then is a missing one
missed, the one declared first.

A group's conditions have smaller bodies than the value the group was read from
(`GroupDefinition.sizeOf_body_lt`), so reading a definition all the way down comes to an end.
-/

namespace Rulebook

open Json (ShapeError Wanted Found)

namespace Value

/-- Refuses a value. -/
def refuse {α : Type} (wanted : Wanted) (v : Value) : Except ShapeError α :=
  .error (.wrongType (.ofValue v) wanted)

def asText : Value → Except ShapeError String
  | .str s => .ok s
  | v => v.refuse .string

def asList : Value → Except ShapeError (List Value)
  | .arr elements => .ok elements
  | v => v.refuse .list

/-- Reads every element of a list. -/
def asListOf {α : Type} (read : Value → Except ShapeError α) :
    Value → Except ShapeError (List α)
  | .arr elements => elements.mapM read
  | v => v.refuse .list

/-- Reads the value of a field that need not be there. -/
def readField {α : Type} (given : Option Value) (read : Value → Except ShapeError α) :
    Except ShapeError (Option α) :=
  match given with
  | none => .ok none
  | some v => (read v).map some

/-- A field that must be there. -/
def require {α : Type} (missing : ShapeError) : Option α → Except ShapeError α
  | none => .error missing
  | some a => .ok a

/-- Refuses a record given as a list of more elements than it has fields. -/
def noMoreThan (fields : Nat) (elements : List Value) : Except ShapeError Unit :=
  if fields < elements.length then .error (.tooLong elements.length) else .ok ()

end Value

open Value

namespace ConditionDefinition

def ofValue : Value → Except ShapeError ConditionDefinition
  | .obj members => do
    let kind ← readField (member? "type" members) asText
    let kind ← require (.missingField "type") kind
    return ⟨kind, (member? "definition" members).getD .null⟩
  | .arr elements => do
    let kind ← readField elements[0]? asText
    let kind ← require (.tooShort 0 recordName 2) kind
    noMoreThan 2 elements
    return ⟨kind, elements[1]?.getD .null⟩
  | v => v.refuse (.record recordName)

end ConditionDefinition

namespace GroupDefinition

def ofValue : Value → Except ShapeError GroupDefinition
  | .obj members => do
    let conditions ←
      readField (member? "conditions" members) (asListOf ConditionDefinition.ofValue)
    let logic ← readField (member? "logic" members) asText
    let logic ← require (.missingField "logic") logic
    return ⟨logic, ← require (.missingField "conditions") conditions⟩
  | .arr elements => do
    let logic ← readField elements[0]? asText
    let logic ← require (.tooShort 0 recordName 2) logic
    let conditions ← readField elements[1]? (asListOf ConditionDefinition.ofValue)
    let conditions ← require (.tooShort 1 recordName 2) conditions
    noMoreThan 2 elements
    return ⟨logic, conditions⟩
  | v => v.refuse (.record recordName)

end GroupDefinition

namespace MatcherDefinition

def ofValue : Value → Except ShapeError MatcherDefinition
  | .obj members => do
    let key ← readField (member? "key" members) asText
    let matcher ← readField (member? "matcher" members) asText
    let values ← readField (member? "values" members) asList
    let key ← require (.missingField "key") key
    let matcher ← require (.missingField "matcher") matcher
    return ⟨key, matcher, values.getD []⟩
  | .arr elements => do
    let key ← readField elements[0]? asText
    let key ← require (.tooShort 0 recordName 3) key
    let matcher ← readField elements[1]? asText
    let matcher ← require (.tooShort 1 recordName 3) matcher
    let values ← readField elements[2]? asList
    noMoreThan 3 elements
    return ⟨key, matcher, values.getD []⟩
  | v => v.refuse (.record recordName)

end MatcherDefinition

namespace RuleDefinition

/-- The definition that a value gives; one without an identifier takes the fresh one. -/
def ofValue (freshId : String) : Value → Except ShapeError RuleDefinition
  | .obj members => do
    let condition ← readField (member? "condition" members) ConditionDefinition.ofValue
    let consequences ← readField (member? "consequences" members) asList
    let id ← readField (member? "id" members) asText
    let name ← readField (member? "name" members) asText
    let condition ← require (.missingField "condition") condition
    return ⟨id.getD freshId, name.getD "", condition, consequences.getD []⟩
  | .arr elements => do
    let id ← readField elements[0]? asText
    let name ← readField elements[1]? asText
    let condition ← readField elements[2]? ConditionDefinition.ofValue
    let condition ← require (.tooShort 2 recordName 4) condition
    let consequences ← readField elements[3]? asList
    noMoreThan 4 elements
    return ⟨id.getD freshId, name.getD "", condition, consequences.getD []⟩
  | v => v.refuse (.record recordName)

end RuleDefinition

/-! ## Bodies get smaller -/

theorem Value.sizeOf_member?_lt {key : String} {members : List (String × Value)} {v : Value}
    (h : member? key members = some v) : sizeOf v < sizeOf members := by
  induction members with
  | nil => simp [member?] at h
  | cons m rest ih =>
    obtain ⟨k, w⟩ := m
    simp only [member?] at h
    split at h
    · cases h
      simp only [List.cons.sizeOf_spec, Prod.mk.sizeOf_spec]
      omega
    · have := ih h
      simp only [List.cons.sizeOf_spec]
      omega

theorem Value.readField_ok {α : Type} {given : Option Value}
    {read : Value → Except ShapeError α} {a : α} (h : readField given read = .ok (some a)) :
    ∃ v, given = some v ∧ read v = .ok a := by
  cases given with
  | none => simp [readField] at h
  | some v =>
    refine ⟨v, rfl, ?_⟩
    cases hv : read v with
    | error e => simp [readField, hv, Except.map] at h
    | ok b => simp_all [readField, Except.map]

theorem Value.require_ok {α : Type} {missing : ShapeError} {o : Option α} {a : α}
    (h : require missing o = .ok a) : o = some a := by
  cases o <;> simp_all [require]

theorem mem_of_mapM_ok {α β ε : Type} {read : α → Except ε β} {l : List α} {out : List β}
    (h : l.mapM read = .ok out) {b : β} (hb : b ∈ out) : ∃ a ∈ l, read a = .ok b := by
  induction l generalizing out with
  | nil =>
    simp only [List.mapM_nil, pure, Except.pure, Except.ok.injEq] at h
    simp [← h] at hb
  | cons a rest ih =>
    simp only [List.mapM_cons, bind, Except.bind, pure, Except.pure] at h
    split at h
    · cases h
    · next b' hb' =>
      split at h
      · cases h
      · next bs hbs =>
        cases h
        rcases List.mem_cons.1 hb with rfl | hmem
        · exact ⟨a, List.mem_cons_self, hb'⟩
        · obtain ⟨x, hx, hxb⟩ := ih hbs hmem
          exact ⟨x, List.mem_cons_of_mem _ hx, hxb⟩

theorem ConditionDefinition.sizeOf_body_lt {v : Value} {d : ConditionDefinition}
    (h : ofValue v = .ok d) : sizeOf d.body < sizeOf v := by
  unfold ofValue at h
  split at h
  · next members =>
    simp only [bind, Except.bind, pure, Except.pure] at h
    split at h
    · cases h
    · split at h
      · cases h
      · cases h
        simp only [Value.obj.sizeOf_spec]
        cases hm : member? "definition" members with
        | none =>
          simp only [Option.getD_none, Value.null.sizeOf_spec]
          cases members with
          | nil => simp
          | cons => simp only [List.cons.sizeOf_spec]; omega
        | some b => have := Value.sizeOf_member?_lt hm; simp only [Option.getD_some]; omega
  · next elements =>
    simp only [bind, Except.bind, pure, Except.pure] at h
    split at h
    · cases h
    · split at h
      · cases h
      · split at h
        · cases h
        · cases h
          simp only [Value.arr.sizeOf_spec]
          cases he : elements[1]? with
          | none =>
            simp only [Option.getD_none, Value.null.sizeOf_spec]
            cases elements with
            | nil => simp
            | cons => simp only [List.cons.sizeOf_spec]; omega
          | some b =>
            have := List.sizeOf_lt_of_mem (List.mem_of_getElem? he)
            simp only [Option.getD_some]
            omega
  · simp [refuse] at h

theorem Value.sizeOf_body_lt_of_asListOf {v : Value} {ds : List ConditionDefinition}
    (h : asListOf ConditionDefinition.ofValue v = .ok ds) {d : ConditionDefinition}
    (hd : d ∈ ds) : sizeOf d.body < sizeOf v := by
  unfold asListOf at h
  split at h
  · next elements =>
    obtain ⟨e, he, hed⟩ := mem_of_mapM_ok h hd
    have h1 := ConditionDefinition.sizeOf_body_lt hed
    have h2 := List.sizeOf_lt_of_mem he
    simp only [Value.arr.sizeOf_spec]
    omega
  · simp [refuse] at h

theorem GroupDefinition.sizeOf_body_lt {v : Value} {g : GroupDefinition}
    (h : ofValue v = .ok g) {d : ConditionDefinition} (hd : d ∈ g.conditions) :
    sizeOf d.body < sizeOf v := by
  unfold ofValue at h
  split at h
  · next members =>
    simp only [bind, Except.bind, pure, Except.pure] at h
    split at h
    · cases h
    · next given hgiven =>
      split at h
      · cases h
      · split at h
        · cases h
        · split at h
          · cases h
          · next ds hds =>
            cases h
            obtain ⟨w, hw, hwd⟩ := Value.readField_ok (Value.require_ok hds ▸ hgiven)
            have h1 := Value.sizeOf_body_lt_of_asListOf hwd hd
            have h2 := Value.sizeOf_member?_lt hw
            simp only [Value.obj.sizeOf_spec]
            omega
  · next elements =>
    simp only [bind, Except.bind, pure, Except.pure] at h
    split at h
    · cases h
    · split at h
      · cases h
      · split at h
        · cases h
        · next given hgiven =>
          split at h
          · cases h
          · next ds hds =>
            split at h
            · cases h
            · cases h
              obtain ⟨w, hw, hwd⟩ := Value.readField_ok (Value.require_ok hds ▸ hgiven)
              have h1 := Value.sizeOf_body_lt_of_asListOf hwd hd
              have h2 := List.sizeOf_lt_of_mem (List.mem_of_getElem? hw)
              simp only [Value.arr.sizeOf_spec]
              omega
  · simp [refuse] at h

end Rulebook
