import Mathlib.Data.List.Nodup
import Rulebook.Definition.OfText
import Rulebook.Definition.OfValue
import Rulebook.Proofs.Json.Values

/-!
# Definitions from texts and from values

**Theorem (`RuleDefinition.agree`).** Where no object repeats a name, a rule's definition is read
from a tree just if it is read from the value that the tree says, and it is the same one.

The two readers go about it in different ways. The one of trees takes the members of an object as
they come, and puts what it reads into a record that is filled step by step; the one of values looks
up the names one after the other. What a single field comes to in such a record does not depend on
the other fields (`takeField`), so that taking all members is to take them for each field on its
own, and that is to look the name up (`foldlM_takeField`). Of a list both take the elements in
order, so there the two go in step (`toOption_next`).
-/

namespace Rulebook

open Json (Break Fault ShapeError StringText Tree)
open Json.Tree (plain field next endOfFields toValues toMembers)
open Value (readField member? insertMember asText asList noMoreThan)

/-! ## Without the errors -/

section Errors

variable {α : Type}

theorem toOption_plain (x : Except Break α) : (plain x).toOption = x.toOption :=
  toOption_mapError Fault.broken x

theorem toOption_treeRequire (missing : ShapeError) (o : Option α) :
    (Tree.require missing o).toOption = o := by
  cases o <;> rfl

theorem toOption_valueRequire (missing : ShapeError) (o : Option α) :
    (Value.require missing o).toOption = o := by
  cases o <;> rfl

theorem toOption_readField_ok (given : Option Value) :
    (readField given .ok).toOption = some given := by
  cases given <;> rfl

/-- A tree and a value that are refused, maybe for different reasons, both give nothing. -/
theorem toOption_refuse {x : Except Fault α} {y : Except ShapeError α} {wanted : Json.Wanted}
    {t : Tree} {v : Value} (hx : x = t.refuse wanted) (hy : y = v.refuse wanted) :
    x.toOption = y.toOption := by
  rw [hx, hy, Tree.refuse, toOption_bind]
  cases t.found <;> rfl

end Errors

/-! ## Readers that agree -/

section Readers

variable {α : Type} {depth : Nat}

/-- Two readers, of trees at a depth and of values, read the same from a tree that says a value and
from the value, or both nothing. -/
def Agree (depth : Nat) (ofTree : Tree → Except Fault α) (ofValue : Value → Except ShapeError α)
    (t : Tree) : Prop :=
  ∀ v, t.toValue depth = .ok v → (ofTree t).toOption = (ofValue v).toOption

theorem agree_toValue (depth : Nat) (t : Tree) :
    Agree depth (fun t => plain (t.toValue depth)) .ok t := by
  intro v hv
  rw [toOption_plain, hv]
  rfl

theorem exists_num_of_toValue {n : Json.NumberText} {v : Value}
    (h : (Tree.number n).toValue depth = .ok v) : ∃ m, v = .num m := by
  rw [Tree.toValue] at h
  split at h
  · cases h
    exact ⟨_, rfl⟩
  · cases h

theorem exists_str_of_toValue {s : StringText} {v : Value}
    (h : (Tree.string s).toValue depth = .ok v) : ∃ text, s.text = .ok text ∧ v = .str text := by
  rw [Tree.toValue] at h
  cases hs : s.text with
  | error b => rw [hs] at h; cases h
  | ok text =>
    rw [hs] at h
    cases h
    exact ⟨text, rfl, rfl⟩

theorem agree_text (depth : Nat) (t : Tree) : Agree depth Tree.text asText t := by
  intro v hv
  cases t with
  | string s =>
    obtain ⟨text, hs, rfl⟩ := exists_str_of_toValue hv
    rw [Tree.text, toOption_plain, hs]
    rfl
  | null | bool => cases hv; rfl
  | number n =>
    obtain ⟨m, rfl⟩ := exists_num_of_toValue hv
    exact toOption_refuse rfl rfl
  | array items ending =>
    obtain ⟨-, -, vs, -, rfl⟩ := Tree.toValue_array.1 hv
    rfl
  | object members ending =>
    obtain ⟨-, -, ms, -, rfl⟩ := Tree.toValue_object.1 hv
    rfl
  | brokenNumber | brokenWord | broken => cases hv

theorem agree_values (depth : Nat) (t : Tree) : Agree depth (Tree.values depth) asList t := by
  intro v hv
  cases t with
  | array items ending =>
    obtain ⟨hdepth, rfl, vs, hvs, rfl⟩ := Tree.toValue_array.1 hv
    have henter : Json.enter depth = .ok (depth + 1) := Json.enter_eq_ok.2 ⟨hdepth, rfl⟩
    simp only [Tree.values, toOption_plain, toOption_bind, henter, toOption_ok, Option.bind_some,
      hvs]
    rfl
  | string s =>
    obtain ⟨text, -, rfl⟩ := exists_str_of_toValue hv
    exact toOption_refuse rfl rfl
  | null | bool => cases hv; rfl
  | number n =>
    obtain ⟨m, rfl⟩ := exists_num_of_toValue hv
    exact toOption_refuse rfl rfl
  | object members ending =>
    obtain ⟨-, -, ms, -, rfl⟩ := Tree.toValue_object.1 hv
    rfl
  | brokenNumber | brokenWord | broken => cases hv

end Readers

/-! ## Objects -/

section Objects

variable {α : Type} {name : String} {members : List (String × Value)}

theorem member?_eq_none (h : name ∉ members.map Prod.fst) : member? name members = none := by
  induction members with
  | nil => rfl
  | cons m rest ih =>
    rw [List.map_cons, List.mem_cons, not_or] at h
    rw [member?, if_neg (Ne.symm h.1), ih h.2]

theorem member?_insertMember (key k : String) (v : Value) (members : List (String × Value)) :
    member? key (insertMember k v members) = if k = key then some v else member? key members := by
  induction members with
  | nil => rfl
  | cons m rest ih =>
    obtain ⟨k', v'⟩ := m
    rw [insertMember]
    split
    · rfl
    · split
      · next hk =>
        subst hk
        simp only [member?]
        split <;> rfl
      · next hk =>
        simp only [member?, ih]
        split
        · next hk' => rw [if_neg fun h => hk (h.trans hk'.symm)]
        · rfl

theorem member?_foldl_insertMember (h : (members.map Prod.fst).Nodup)
    (sorted : List (String × Value)) :
    member? name (members.foldl (fun sorted (k, v) => insertMember k v sorted) sorted) =
      (member? name members).or (member? name sorted) := by
  induction members generalizing sorted with
  | nil => rfl
  | cons m rest ih =>
    obtain ⟨k, v⟩ := m
    obtain ⟨hk, hrest⟩ := List.nodup_cons.1 h
    rw [List.foldl_cons, ih hrest, member?_insertMember, member?]
    split
    · next hname =>
      subst hname
      rw [member?_eq_none hk]
      rfl
    · rfl

/-- **Sorting the members of an object** changes nothing that is looked up, if no name repeats. -/
theorem exists_ofMembers_eq_obj (h : (members.map Prod.fst).Nodup) :
    ∃ sorted, Value.ofMembers members = .obj sorted ∧
      ∀ name, member? name sorted = member? name members := by
  refine ⟨_, rfl, fun name => ?_⟩
  rw [member?_foldl_insertMember h, member?, Option.or_none]

/-- What a member makes of the field of a name. A field may be given once. -/
def takeField (name : String) (read : Value → Except ShapeError α) (given : Option α)
    (m : String × Value) : Option (Option α) :=
  if m.1 = name then
    if given.isSome then none else (read m.2).toOption.map some
  else some given

theorem takeField_of_ne {read : Value → Except ShapeError α} {k : String} (h : k ≠ name)
    (given : Option α) (v : Value) : takeField name read given (k, v) = some given :=
  if_neg h

theorem foldlM_takeField_of_not_mem {read : Value → Except ShapeError α} (given : Option α)
    (h : name ∉ members.map Prod.fst) :
    members.foldlM (takeField name read) given = some given := by
  induction members with
  | nil => rfl
  | cons m rest ih =>
    rw [List.map_cons, List.mem_cons, not_or] at h
    rw [List.foldlM_cons, takeField, if_neg (Ne.symm h.1)]
    exact ih h.2

/-- **Taking members one by one is looking the name up.** -/
theorem foldlM_takeField (read : Value → Except ShapeError α) (h : (members.map Prod.fst).Nodup) :
    members.foldlM (takeField name read) none =
      (readField (member? name members) read).toOption := by
  induction members with
  | nil => rfl
  | cons m rest ih =>
    obtain ⟨k, v⟩ := m
    obtain ⟨hk, hrest⟩ := List.nodup_cons.1 h
    rw [List.foldlM_cons, takeField, member?]
    by_cases hname : k = name
    · subst hname
      simp only [if_true, Option.isSome_none, Bool.false_eq_true, if_false, readField, toOption_map]
      cases (read v).toOption with
      | none => rfl
      | some a => exact foldlM_takeField_of_not_mem (some a) hk
    · rw [if_neg hname, if_neg hname]
      exact ih hrest

theorem toOption_field {depth : Nat} {given : Option α} {ofTree : Tree → Except Fault α}
    {ofValue : Value → Except ShapeError α} {t : Tree} {v : Value}
    (h : Agree depth ofTree ofValue t) (hv : t.toValue depth = .ok v) :
    (field name given (ofTree t)).toOption = takeField name ofValue given (name, v) := by
  unfold field takeField
  rw [if_pos rfl, ← h v hv]
  split
  · rfl
  · exact toOption_map some (ofTree t)

theorem toOption_skip {depth : Nat} {t : Tree} {v : Value} (hv : t.toValue depth = .ok v) :
    t.skip.toOption = some () := by
  rw [Tree.skip, toOption_plain, Tree.firstBreak_of_toValue hv]
  rfl

/-- Two ways of filling a record that go in step for every member go in step for all of them. -/
theorem toOption_foldlM {depth : Nat} {step : α → StringText × Tree → Except Fault α}
    {take : α → String × Value → Option α} {members : List (StringText × Tree)}
    {ms : List (String × Value)} (h : toMembers depth members = .ok ms)
    (hstep : ∀ key t k v, (key, t) ∈ members → key.text = .ok k → t.toValue depth = .ok v →
      ∀ g, (step g (key, t)).toOption = take g (k, v)) (g : α) :
    (members.foldlM step g).toOption = ms.foldlM take g := by
  induction members generalizing ms g with
  | nil =>
    cases h
    rfl
  | cons m rest ih =>
    obtain ⟨key, t⟩ := m
    obtain ⟨k, v, ms, hk, hv, hms, rfl⟩ := Tree.toMembers_cons.1 h
    have hrest := ih hms fun key t k v hmem => hstep key t k v (List.mem_cons_of_mem _ hmem)
    rw [List.foldlM_cons, List.foldlM_cons, toOption_bind,
      hstep key t k v List.mem_cons_self hk hv]
    exact Option.bind_congr fun g' _ => hrest g'

end Objects

theorem map_text_of_toMembers {depth : Nat} {members : List (StringText × Tree)}
    {ms : List (String × Value)} (h : toMembers depth members = .ok ms) :
    members.map (fun m => m.1.text.toOption) = (ms.map Prod.fst).map some := by
  induction members generalizing ms with
  | nil =>
    cases h
    rfl
  | cons m rest ih =>
    obtain ⟨key, t⟩ := m
    obtain ⟨k, v, ms, hk, -, hms, rfl⟩ := Tree.toMembers_cons.1 h
    rw [List.map_cons, ih hms, hk]
    rfl

theorem Json.Tree.DistinctNames.nodup_of_toMembers {depth : Nat}
    {members : List (StringText × Tree)} {ending : Json.Ending} {ms : List (String × Value)}
    (h : (Tree.object members ending).DistinctNames) (hms : toMembers depth members = .ok ms) :
    (ms.map Prod.fst).Nodup := by
  rw [Tree.DistinctNames, map_text_of_toMembers hms] at h
  exact h.1.of_map some

/-! ## Lists -/

section Lists

variable {α : Type} {depth : Nat} {items : List Tree} {vs : List Value}

theorem toValues_drop (h : toValues depth items = .ok vs) (i : Nat) :
    toValues depth (items.drop i) = .ok (vs.drop i) := by
  induction i generalizing items vs with
  | zero => exact h
  | succ i ih =>
    cases items with
    | nil =>
      cases h
      rfl
    | cons t rest =>
      obtain ⟨v, vs, -, hvs, rfl⟩ := Tree.toValues_cons.1 h
      exact ih hvs

theorem length_of_toValues (h : toValues depth items = .ok vs) : vs.length = items.length := by
  induction items generalizing vs with
  | nil =>
    cases h
    rfl
  | cons t rest ih =>
    obtain ⟨v, vs, -, hvs, rfl⟩ := Tree.toValues_cons.1 h
    rw [List.length_cons, List.length_cons, ih hvs]

/-- **The next element** is the one at the position that the list was read up to. -/
theorem toOption_next {ofTree : Tree → Except Fault α} {ofValue : Value → Except ShapeError α}
    (h : toValues depth items = .ok vs) (hagree : ∀ t ∈ items, Agree depth ofTree ofValue t)
    (i : Nat) : (next none (items.drop i) ofTree).toOption =
      (readField vs[i]? ofValue).toOption.map fun a => (a, items.drop (i + 1)) := by
  have hdrop := toValues_drop h i
  rw [← List.tail_drop, ← List.head?_drop]
  cases hitems : items.drop i with
  | nil =>
    rw [hitems] at hdrop
    have hvs : vs.drop i = [] := (Except.ok.inj hdrop).symm
    rw [hvs]
    rfl
  | cons t rest =>
    rw [hitems] at hdrop
    obtain ⟨v, vs', hv, -, hvs⟩ := Tree.toValues_cons.1 hdrop
    have ht : t ∈ items := List.mem_of_mem_drop (hitems ▸ List.mem_cons_self)
    rw [hvs, List.head?_cons, readField, toOption_map, ← hagree t ht v hv, next, toOption_bind]
    cases (ofTree t).toOption <;> rfl

theorem toOption_next_zero {ofTree : Tree → Except Fault α} {ofValue : Value → Except ShapeError α}
    (h : toValues depth items = .ok vs) (hagree : ∀ t ∈ items, Agree depth ofTree ofValue t) :
    (next none items ofTree).toOption =
      (readField vs[0]? ofValue).toOption.map fun a => (a, items.drop 1) := by
  have hnext := toOption_next h hagree 0
  rwa [List.drop_zero] at hnext

theorem toOption_endOfFields (h : toValues depth items = .ok vs) (fields : Nat) :
    (endOfFields none (items.drop fields)).toOption = (noMoreThan fields vs).toOption := by
  have hrest : (items.drop fields).isEmpty ↔ ¬ fields < vs.length := by
    rw [List.isEmpty_iff, List.drop_eq_nil_iff, length_of_toValues h, Nat.not_lt]
  unfold endOfFields noMoreThan
  by_cases hlong : fields < vs.length
  · rw [if_neg fun hempty => hrest.1 hempty hlong, if_pos hlong]
    rfl
  · rw [if_pos (hrest.2 hlong), if_neg hlong]
    rfl

end Lists

namespace ConditionDefinition

/-- What a member makes of all fields. -/
def Given.take (g : Given) (m : String × Value) : Option Given := do
  let kind ← takeField "type" asText g.kind m
  let body ← takeField "definition" .ok g.body m
  return ⟨kind, body⟩

theorem toOption_read {depth : Nat} {key : StringText} {t : Tree} {k : String} {v : Value}
    (hk : key.text = .ok k) (hv : t.toValue depth = .ok v) (g : Given) :
    (Given.read depth g (key, t)).toOption = g.take (k, v) := by
  simp only [Given.read, toOption_bind, toOption_plain, hk, toOption_ok, Option.bind_some]
  split
  · rw [toOption_bind, toOption_field (agree_text depth t) hv]
    rfl
  · rw [toOption_bind, toOption_field (agree_toValue depth t) hv]
    rfl
  · next hkind hbody =>
    rw [Given.take, takeField_of_ne hkind, takeField_of_ne hbody, toOption_bind, toOption_skip hv]
    rfl

/-- The fields do not depend on each other. -/
theorem foldlM_take (members : List (String × Value)) (g : Given) :
    members.foldlM Given.take g = do
      let kind ← members.foldlM (takeField "type" asText) g.kind
      let body ← members.foldlM (takeField "definition" .ok) g.body
      return ⟨kind, body⟩ := by
  induction members generalizing g with
  | nil => rfl
  | cons m rest ih =>
    simp only [List.foldlM_cons, Given.take, Option.bind_eq_bind, ih]
    cases takeField "type" asText g.kind m with
    | none => rfl
    | some kind =>
      cases takeField "definition" .ok g.body m with
      | none => simp
      | some body => rfl

theorem agree {depth : Nat} {t : Tree} (h : t.DistinctNames) :
    Agree depth (ofTree depth) ofValue t := by
  intro v hv
  cases t with
  | object members ending =>
    obtain ⟨hdepth, hending, ms, hms, rfl⟩ := Tree.toValue_object.1 hv
    have henter : Json.enter depth = .ok (depth + 1) := Json.enter_eq_ok.2 ⟨hdepth, rfl⟩
    have hnodup : (ms.map Prod.fst).Nodup := h.nodup_of_toMembers hms
    obtain ⟨sorted, hsorted, hmember⟩ := exists_ofMembers_eq_obj hnodup
    have hread := toOption_foldlM hms fun key t k v _ hk hv => toOption_read hk hv
    simp only [ofTree, hsorted, ofValue, toOption_bind, toOption_plain, henter, hending,
      toOption_ok, Option.bind_some, hread, foldlM_take, foldlM_takeField _ hnodup, hmember,
      toOption_treeRequire, toOption_valueRequire, toOption_readField_ok, Option.bind_eq_bind,
      Option.bind_assoc]
    rfl
  | array items ending =>
    obtain ⟨hdepth, rfl, vs, hvs, rfl⟩ := Tree.toValue_array.1 hv
    have henter : Json.enter depth = .ok (depth + 1) := Json.enter_eq_ok.2 ⟨hdepth, rfl⟩
    simp only [ofTree, ofValue, toOption_bind, toOption_plain, henter, toOption_ok,
      Option.bind_some, toOption_next_zero hvs fun t _ => agree_text _ t,
      toOption_next hvs fun t _ => agree_toValue _ t, Option.bind_map,
      Function.comp_def, toOption_endOfFields hvs, toOption_treeRequire, toOption_valueRequire,
      toOption_readField_ok, Nat.reduceAdd]
    rfl
  | null | bool => cases hv; rfl
  | number n =>
    obtain ⟨m, rfl⟩ := exists_num_of_toValue hv
    exact toOption_refuse rfl rfl
  | string s =>
    obtain ⟨text, -, rfl⟩ := exists_str_of_toValue hv
    exact toOption_refuse rfl rfl
  | brokenNumber | brokenWord | broken => cases hv

end ConditionDefinition

namespace RuleDefinition

/-- What a member makes of all fields. -/
def Given.take (g : Given) (m : String × Value) : Option Given := do
  let id ← takeField "id" asText g.id m
  let name ← takeField "name" asText g.name m
  let condition ← takeField "condition" ConditionDefinition.ofValue g.condition m
  let consequences ← takeField "consequences" asList g.consequences m
  return ⟨id, name, condition, consequences⟩

theorem toOption_read {depth : Nat} {key : StringText} {t : Tree} {k : String} {v : Value}
    (ht : t.DistinctNames) (hk : key.text = .ok k) (hv : t.toValue depth = .ok v) (g : Given) :
    (Given.read depth g (key, t)).toOption = g.take (k, v) := by
  simp only [Given.read, toOption_bind, toOption_plain, hk, toOption_ok, Option.bind_some]
  split
  · rw [toOption_bind, toOption_field (agree_text depth t) hv]
    rfl
  · rw [toOption_bind, toOption_field (agree_text depth t) hv]
    rfl
  · rw [toOption_bind, toOption_field (ConditionDefinition.agree ht) hv]
    rfl
  · rw [toOption_bind, toOption_field (agree_values depth t) hv]
    rfl
  · next hid hname hcondition hconsequences =>
    rw [Given.take, takeField_of_ne hid, takeField_of_ne hname, takeField_of_ne hcondition,
      takeField_of_ne hconsequences, toOption_bind, toOption_skip hv]
    rfl

/-- The fields do not depend on each other. -/
theorem foldlM_take (members : List (String × Value)) (g : Given) :
    members.foldlM Given.take g = do
      let id ← members.foldlM (takeField "id" asText) g.id
      let name ← members.foldlM (takeField "name" asText) g.name
      let condition ←
        members.foldlM (takeField "condition" ConditionDefinition.ofValue) g.condition
      let consequences ← members.foldlM (takeField "consequences" asList) g.consequences
      return ⟨id, name, condition, consequences⟩ := by
  induction members generalizing g with
  | nil => rfl
  | cons m rest ih =>
    simp only [List.foldlM_cons, Given.take, Option.bind_eq_bind, ih]
    cases takeField "id" asText g.id m with
    | none => rfl
    | some id =>
      cases takeField "name" asText g.name m with
      | none => simp
      | some name =>
        cases takeField "condition" ConditionDefinition.ofValue g.condition m with
        | none => simp
        | some condition =>
          cases takeField "consequences" asList g.consequences m with
          | none => simp
          | some consequences => rfl

/-- **A definition is read from a text and from a value alike.** -/
theorem agree (freshId : String) {t : Tree} (h : t.DistinctNames) :
    Agree 0 (ofTree freshId) (ofValue freshId) t := by
  intro v hv
  have henter : Json.enter 0 = .ok 1 := rfl
  cases t with
  | object members ending =>
    obtain ⟨-, hending, ms, hms, rfl⟩ := Tree.toValue_object.1 hv
    have hnodup : (ms.map Prod.fst).Nodup := h.nodup_of_toMembers hms
    obtain ⟨sorted, hsorted, hmember⟩ := exists_ofMembers_eq_obj hnodup
    have hread := toOption_foldlM hms fun key t k v hmem hk hv =>
      toOption_read (h.of_mem_members hmem) hk hv
    simp only [ofTree, hsorted, ofValue, toOption_bind, toOption_plain, henter, hending,
      toOption_ok, Option.bind_some, hread, foldlM_take, foldlM_takeField _ hnodup, hmember,
      toOption_treeRequire, toOption_valueRequire, Option.bind_eq_bind, Option.bind_assoc]
    -- The fields are required in one order and looked up in another.
    cases (readField (member? "id" ms) asText).toOption with
    | none => simp
    | some id =>
      cases (readField (member? "name" ms) asText).toOption with
      | none => simp
      | some name =>
        cases (readField (member? "condition" ms) ConditionDefinition.ofValue).toOption with
        | none => rfl
        | some condition =>
          cases (readField (member? "consequences" ms) asList).toOption with
          | none => rfl
          | some consequences => rfl
  | array items ending =>
    obtain ⟨-, rfl, vs, hvs, rfl⟩ := Tree.toValue_array.1 hv
    have hcondition : ∀ t ∈ items,
        Agree 1 (ConditionDefinition.ofTree 1) ConditionDefinition.ofValue t := fun t ht =>
      ConditionDefinition.agree (h.of_mem ht)
    simp only [ofTree, ofValue, toOption_bind, toOption_plain, henter, toOption_ok,
      Option.bind_some, toOption_next_zero hvs fun t _ => agree_text _ t,
      toOption_next hvs fun t _ => agree_text _ t, toOption_next hvs hcondition,
      toOption_next hvs fun t _ => agree_values _ t, Option.bind_map, Function.comp_def,
      toOption_endOfFields hvs, toOption_treeRequire, toOption_valueRequire, Nat.reduceAdd]
    rfl
  | null | bool => cases hv; rfl
  | number n =>
    obtain ⟨m, rfl⟩ := exists_num_of_toValue hv
    exact toOption_refuse rfl rfl
  | string s =>
    obtain ⟨text, -, rfl⟩ := exists_str_of_toValue hv
    exact toOption_refuse rfl rfl
  | brokenNumber | brokenWord | broken => cases hv

end RuleDefinition
end Rulebook
