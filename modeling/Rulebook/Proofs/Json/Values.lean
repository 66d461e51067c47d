import Rulebook.Json.Reader
import Rulebook.Proofs.Result

/-!
# Trees that say a value

`toValue_array`, `toValue_object`, `toValues_cons` and `toMembers_cons` say when a container and its
parts say a value; everything below is an induction on trees with these.

* What says a value breaks nowhere, so that skipping it is no different from reading it
  (`firstBreak_of_toValue`).
* The depth at which a tree is read matters for nothing but the limit: a tree says the same value
  at every depth that leaves room for its `nesting` (`toValue_of_nesting`).

`DistinctNames` holds of a tree in which no object repeats a name.
-/

namespace Rulebook.Json

theorem close_eq_ok {b : Option Break} {u : Unit} : close b = .ok u ↔ b = none := by
  cases b <;> simp [close]

theorem enter_eq_ok {depth inner : Nat} :
    enter depth = .ok inner ↔ depth < depthLimit ∧ inner = depth + 1 := by
  unfold enter
  split
  · next h => simp [h, eq_comm]
  · next h => simp [h]

namespace Tree

/-! ## Containers and their parts -/

theorem toValue_array {depth : Nat} {items : List Tree} {ending : Option Break} {v : Value} :
    toValue depth (.array items ending) = .ok v ↔
      depth < depthLimit ∧ ending = none ∧
        ∃ vs, toValues (depth + 1) items = .ok vs ∧ v = .arr vs := by
  simp only [toValue, bind_eq_ok, enter_eq_ok, close_eq_ok, pure, Except.pure,
    Except.ok.injEq]
  constructor
  · rintro ⟨inner, ⟨hdepth, rfl⟩, vs, hvs, -, hending, rfl⟩
    exact ⟨hdepth, hending, vs, hvs, rfl⟩
  · rintro ⟨hdepth, hending, vs, hvs, rfl⟩
    exact ⟨_, ⟨hdepth, rfl⟩, vs, hvs, (), hending, rfl⟩

theorem toValue_object {depth : Nat} {members : List (StringText × Tree)} {ending : Ending}
    {v : Value} :
    toValue depth (.object members ending) = .ok v ↔
      depth < depthLimit ∧ ending.break? = none ∧
        ∃ ms, toMembers (depth + 1) members = .ok ms ∧ v = .ofMembers ms := by
  simp only [toValue, bind_eq_ok, enter_eq_ok, close_eq_ok, pure, Except.pure,
    Except.ok.injEq]
  constructor
  · rintro ⟨inner, ⟨hdepth, rfl⟩, ms, hms, -, hending, rfl⟩
    exact ⟨hdepth, hending, ms, hms, rfl⟩
  · rintro ⟨hdepth, hending, ms, hms, rfl⟩
    exact ⟨_, ⟨hdepth, rfl⟩, ms, hms, (), hending, rfl⟩

theorem toValues_cons {depth : Nat} {t : Tree} {rest : List Tree} {vs : List Value} :
    toValues depth (t :: rest) = .ok vs ↔
      ∃ v vs', toValue depth t = .ok v ∧ toValues depth rest = .ok vs' ∧ vs = v :: vs' := by
  simp only [toValues, bind_eq_ok, pure, Except.pure, Except.ok.injEq]
  constructor
  · rintro ⟨v, hv, vs', hvs', rfl⟩
    exact ⟨v, vs', hv, hvs', rfl⟩
  · rintro ⟨v, vs', hv, hvs', rfl⟩
    exact ⟨v, hv, vs', hvs', rfl⟩

theorem toMembers_cons {depth : Nat} {key : StringText} {t : Tree}
    {rest : List (StringText × Tree)} {ms : List (String × Value)} :
    toMembers depth ((key, t) :: rest) = .ok ms ↔
      ∃ k v ms', key.text = .ok k ∧ toValue depth t = .ok v ∧ toMembers depth rest = .ok ms' ∧
        ms = (k, v) :: ms' := by
  simp only [toMembers, bind_eq_ok, pure, Except.pure, Except.ok.injEq]
  constructor
  · rintro ⟨k, hk, v, hv, ms', hms', rfl⟩
    exact ⟨k, v, ms', hk, hv, hms', rfl⟩
  · rintro ⟨k, v, ms', hk, hv, hms', rfl⟩
    exact ⟨k, hk, v, hv, ms', hms', rfl⟩

/-! ## Breaks -/

theorem isSome_firstBreak_array (items : List Tree) (b : Break) :
    (Tree.array items (some b)).firstBreak.isSome := by
  rw [firstBreak]
  cases firstBreakItem items <;> rfl

theorem isSome_firstBreak_object (members : List (StringText × Tree)) {ending : Ending}
    (h : ending.break?.isSome) : (Tree.object members ending).firstBreak.isSome := by
  rw [firstBreak]
  cases firstBreakMember members with
  | some b => rfl
  | none => exact h

theorem broken_of_decodePieces {broken : Option Break} {pieces : List Piece} {cs : List Char}
    (h : decodePieces broken pieces = .ok cs) : broken = none := by
  have hmap {x : Except Break (List Char)} {c : Char} {cs : List Char}
      (hx : x.map (c :: ·) = .ok cs) : ∃ cs', x = .ok cs' := by
    cases x with
    | error b => cases hx
    | ok cs' => exact ⟨cs', rfl⟩
  fun_induction decodePieces broken pieces generalizing cs with
  | case1 => assumption
  | case2 | case4 | case7 | case8 | case10 => cases h
  | case3 _ _ ih | case5 _ _ ih | case6 _ _ _ _ _ ih | case9 _ _ _ _ _ ih | case11 _ _ _ _ ih =>
    obtain ⟨cs', hcs'⟩ := hmap h
    exact ih hcs'

theorem broken_of_text {s : StringText} {text : String} (h : s.text = .ok text) :
    s.broken = none := by
  unfold StringText.text at h
  cases hs : decodePieces s.broken s.pieces with
  | error b => rw [hs] at h; cases h
  | ok cs => exact broken_of_decodePieces hs

mutual

/-- **What says a value breaks nowhere.** -/
theorem firstBreak_of_toValue {depth : Nat} {t : Tree} {v : Value} (h : toValue depth t = .ok v) :
    firstBreak t = none := by
  cases t with
  | null | bool | number => rfl
  | string s =>
    rw [toValue] at h
    cases hs : s.text with
    | error b => rw [hs] at h; cases h
    | ok text => exact broken_of_text hs
  | array items ending =>
    obtain ⟨-, rfl, vs, hvs, -⟩ := toValue_array.1 h
    rw [firstBreak, firstBreakItem_of_toValues hvs]
    rfl
  | object members ending =>
    obtain ⟨-, hending, ms, hms, -⟩ := toValue_object.1 h
    rw [firstBreak, firstBreakMember_of_toMembers hms, hending]
    rfl
  | brokenNumber | brokenWord | broken => cases h

theorem firstBreakItem_of_toValues {depth : Nat} {ts : List Tree} {vs : List Value}
    (h : toValues depth ts = .ok vs) : firstBreakItem ts = none := by
  cases ts with
  | nil => rfl
  | cons t rest =>
    obtain ⟨v, vs', hv, hvs', -⟩ := toValues_cons.1 h
    rw [firstBreakItem, firstBreak_of_toValue hv, firstBreakItem_of_toValues hvs']
    rfl

theorem firstBreakMember_of_toMembers {depth : Nat} {members : List (StringText × Tree)}
    {ms : List (String × Value)} (h : toMembers depth members = .ok ms) :
    firstBreakMember members = none := by
  cases members with
  | nil => rfl
  | cons m rest =>
    obtain ⟨key, t⟩ := m
    obtain ⟨k, v, ms', hk, hv, hms', -⟩ := toMembers_cons.1 h
    rw [firstBreakMember, broken_of_text hk, firstBreak_of_toValue hv,
      firstBreakMember_of_toMembers hms']
    rfl

end

/-! ## Nesting -/

mutual

/-- How deep containers are nested in a tree. -/
def nesting : Tree → Nat
  | .array items _ => nestingOfItems items + 1
  | .object members _ => nestingOfMembers members + 1
  | _ => 0

def nestingOfItems : List Tree → Nat
  | [] => 0
  | t :: rest => max (nesting t) (nestingOfItems rest)

def nestingOfMembers : List (StringText × Tree) → Nat
  | [] => 0
  | (_, t) :: rest => max (nesting t) (nestingOfMembers rest)

end

mutual

/-- **A value does not depend on the depth** at which it is read, where there is room for it. -/
theorem toValue_of_nesting {depth depth' : Nat} {t : Tree} {v : Value}
    (h : toValue depth t = .ok v) (hroom : depth' + nesting t ≤ depthLimit) :
    toValue depth' t = .ok v := by
  cases t with
  | null | bool | number | string | brokenNumber | brokenWord | broken => exact h
  | array items ending =>
    obtain ⟨-, hending, vs, hvs, hv⟩ := toValue_array.1 h
    rw [nesting] at hroom
    exact toValue_array.2 ⟨by omega, hending, vs, toValues_of_nesting hvs (by omega), hv⟩
  | object members ending =>
    obtain ⟨-, hending, ms, hms, hv⟩ := toValue_object.1 h
    rw [nesting] at hroom
    exact toValue_object.2 ⟨by omega, hending, ms, toMembers_of_nesting hms (by omega), hv⟩

theorem toValues_of_nesting {depth depth' : Nat} {ts : List Tree} {vs : List Value}
    (h : toValues depth ts = .ok vs) (hroom : depth' + nestingOfItems ts ≤ depthLimit) :
    toValues depth' ts = .ok vs := by
  cases ts with
  | nil => exact h
  | cons t rest =>
    obtain ⟨v, vs', hv, hvs', rfl⟩ := toValues_cons.1 h
    rw [nestingOfItems] at hroom
    exact toValues_cons.2 ⟨v, vs', toValue_of_nesting hv (by omega),
      toValues_of_nesting hvs' (by omega), rfl⟩

theorem toMembers_of_nesting {depth depth' : Nat} {members : List (StringText × Tree)}
    {ms : List (String × Value)} (h : toMembers depth members = .ok ms)
    (hroom : depth' + nestingOfMembers members ≤ depthLimit) :
    toMembers depth' members = .ok ms := by
  cases members with
  | nil => exact h
  | cons m rest =>
    obtain ⟨key, t⟩ := m
    obtain ⟨k, v, ms', hk, hv, hms', rfl⟩ := toMembers_cons.1 h
    rw [nestingOfMembers] at hroom
    exact toMembers_cons.2 ⟨k, v, ms', hk, toValue_of_nesting hv (by omega),
      toMembers_of_nesting hms' (by omega), rfl⟩

end

/-! ## Names -/

mutual

/-- No object in the tree repeats a name. -/
def DistinctNames : Tree → Prop
  | .array items _ => DistinctNamesInItems items
  | .object members _ =>
    (members.map fun m => m.1.text.toOption).Nodup ∧ DistinctNamesInMembers members
  | _ => True

def DistinctNamesInItems : List Tree → Prop
  | [] => True
  | t :: rest => DistinctNames t ∧ DistinctNamesInItems rest

def DistinctNamesInMembers : List (StringText × Tree) → Prop
  | [] => True
  | (_, t) :: rest => DistinctNames t ∧ DistinctNamesInMembers rest

end

theorem DistinctNames.of_mem {items : List Tree} {ending : Option Break}
    (h : DistinctNames (.array items ending)) {t : Tree} (ht : t ∈ items) : t.DistinctNames := by
  replace h : DistinctNamesInItems items := h
  induction items with
  | nil => cases ht
  | cons t' rest ih =>
    rcases List.mem_cons.1 ht with rfl | ht
    · exact h.1
    · exact ih ht h.2

theorem DistinctNames.of_mem_members {members : List (StringText × Tree)} {ending : Ending}
    (h : DistinctNames (.object members ending)) {key : StringText} {t : Tree}
    (ht : (key, t) ∈ members) : t.DistinctNames := by
  replace h : DistinctNamesInMembers members := h.2
  induction members with
  | nil => cases ht
  | cons m rest ih =>
    rcases List.mem_cons.1 ht with rfl | ht
    · exact h.1
    · exact ih ht h.2

end Tree
end Rulebook.Json
