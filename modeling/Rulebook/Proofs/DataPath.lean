import Mathlib.Logic.Basic
import Rulebook.DataPath
import Rulebook.Proofs.Number.Digits

/-!
# What a path leads to

A node of a value is reached by keys of objects and positions in arrays, and a path writes these
with points between them. `data.LeadsTo steps v` says that the steps of a path lead from `data` to
`v`; `data.At places v` says that the node `v` stands at places of `data`, whatever they are called.

**Theorem (`find?_iff_leadsTo`).** A member of the root whose key is the whole path is what is
found. Without such a member, what is found is what the steps of the path lead to, and nothing if
they lead nowhere. So each node but the root is found at the path of its places, if no key on the
way has a point in it and no member of the root has the whole path as its key.

A step is a text, and the value that it starts from decides whether it is a key or a position. That
a path has only one list of steps is what `List.splitOn` and `List.intercalate` say of each other.
Which steps read as positions is settled by `readIndex?_eq_some_iff`.
-/

namespace Rulebook
namespace Value

/-! ## Children -/

/-- An object has a member with this key and value, the first one if there are more with the key. -/
def HasMember (v : Value) (key : String) (w : Value) : Prop :=
  ∃ before after, v = .obj (before ++ (key, w) :: after) ∧ ∀ m ∈ before, m.1 ≠ key

/-- An array has this element at the position. -/
def HasElement (v : Value) (i : Nat) (w : Value) : Prop :=
  ∃ elements, v = .arr elements ∧ elements[i]? = some w

variable {v w u : Value} {key step : String}

theorem member?_eq_some_iff {members : List (String × Value)} :
    member? key members = some w ↔ (obj members).HasMember key w := by
  induction members with
  | nil => simp [member?, HasMember]
  | cons m rest ih =>
    obtain ⟨k, x⟩ := m
    rw [member?]
    by_cases hk : k = key
    · subst hk
      rw [if_pos rfl]
      constructor
      · rintro h
        cases h
        exact ⟨[], rest, rfl, by simp⟩
      · rintro ⟨before, after, h, hbefore⟩
        cases before with
        | nil => cases h; rfl
        | cons m before => cases h; exact absurd rfl (hbefore _ List.mem_cons_self)
    · rw [if_neg hk, ih]
      constructor
      · rintro ⟨before, after, h, hbefore⟩
        cases h
        exact ⟨(k, x) :: before, after, rfl, List.forall_mem_cons.2 ⟨hk, hbefore⟩⟩
      · rintro ⟨before, after, h, hbefore⟩
        cases before with
        | nil => cases h; exact absurd rfl hk
        | cons m before =>
          cases h
          exact ⟨before, after, rfl, (List.forall_mem_cons.1 hbefore).2⟩

theorem rootMember?_eq_some_iff : v.rootMember? key = some w ↔ v.HasMember key w := by
  cases v with
  | obj members => exact member?_eq_some_iff
  | null | bool | num | str | arr => simp [rootMember?, HasMember]

/-- The step is a key of an object, or it writes a position in an array. -/
def Step (v : Value) (step : String) (w : Value) : Prop :=
  v.HasMember step w ∨ ∃ i, WritesIndex step.toList i ∧ v.HasElement i w

theorem child?_eq_some_iff : v.child? step = some w ↔ v.Step step w := by
  cases v with
  | obj members =>
    rw [child?, member?_eq_some_iff, Step]
    simp [HasElement]
  | arr elements =>
    rw [child?, Option.bind_eq_some_iff]
    simp only [readIndex?_eq_some_iff, Step, HasElement]
    constructor
    · rintro ⟨i, hi, h⟩
      exact .inr ⟨i, hi, elements, rfl, h⟩
    · rintro (⟨before, after, h, -⟩ | ⟨i, hi, _, h, hw⟩)
      · cases h
      · cases h
        exact ⟨i, hi, hw⟩
  | null | bool | num | str => simp [child?, Step, HasMember, HasElement]

/-! ## Steps -/

/-- The steps lead from the one value down to the other. -/
inductive LeadsTo : Value → List String → Value → Prop
  | nil (v : Value) : LeadsTo v [] v
  | cons {v w u : Value} {step : String} {steps : List String} (first : v.Step step w)
      (rest : LeadsTo w steps u) : LeadsTo v (step :: steps) u

theorem leadsTo_cons_iff {steps : List String} :
    v.LeadsTo (step :: steps) u ↔ ∃ w, v.Step step w ∧ w.LeadsTo steps u := by
  constructor
  · rintro (_ | ⟨first, rest⟩)
    exact ⟨_, first, rest⟩
  · rintro ⟨w, first, rest⟩
    exact .cons first rest

theorem follow?_eq_some_iff {steps : List String} :
    v.follow? steps = some w ↔ v.LeadsTo steps w := by
  induction steps generalizing v with
  | nil =>
    rw [follow?, List.foldlM_nil]
    constructor
    · rintro h
      cases h
      exact .nil _
    · rintro ⟨⟩
      rfl
  | cons step steps ih =>
    rw [follow?, List.foldlM_cons, leadsTo_cons_iff]
    refine Option.bind_eq_some_iff.trans (exists_congr fun u => ?_)
    rw [child?_eq_some_iff, ← ih, follow?]

end Value

/-- The path is made of these steps, with points between them and none in them. -/
structure IsPath (path : String) (steps : List String) : Prop where
  path_eq : path = ".".intercalate steps
  steps_ne : steps ≠ []
  no_point : ∀ step ∈ steps, '.' ∉ step.toList

theorem not_mem_of_mem_splitOn {c : Char} {cs piece : List Char} (h : piece ∈ cs.splitOn c) :
    c ∉ piece := by
  induction cs generalizing piece with
  | nil =>
    rw [List.splitOn_nil, List.mem_singleton] at h
    simp [h]
  | cons d cs ih =>
    rw [List.splitOn_cons_eq_if_modifyHead] at h
    split at h
    · rcases List.mem_cons.1 h with rfl | h
      · simp
      · exact ih h
    · next hd =>
      obtain ⟨first, others, hsplit⟩ := List.exists_cons_of_ne_nil (List.splitOn_ne_nil c cs)
      rw [hsplit] at h ih
      rcases List.mem_cons.1 h with rfl | h
      · have hfirst := ih List.mem_cons_self
        simp only [beq_iff_eq] at hd
        simp [hfirst, Ne.symm hd]
      · exact ih (List.mem_cons_of_mem _ h)

/-- A path has one list of steps. -/
theorem isPath_iff {path : String} {steps : List String} :
    IsPath path steps ↔ pathSteps path = steps := by
  unfold pathSteps
  constructor
  · rintro ⟨rfl, hne, hpoint⟩
    have hsplit : (['.'].intercalate (steps.map String.toList)).splitOn '.' =
        steps.map String.toList :=
      List.splitOn_intercalate '.' (by simpa using hpoint) (by simpa using hne)
    rw [String.toList_intercalate, show ".".toList = ['.'] from rfl, hsplit, List.map_map]
    simp
  · rintro rfl
    have hlists : ((path.toList.splitOn '.').map String.ofList).map String.toList =
        path.toList.splitOn '.' := by simp
    refine ⟨?_, by simp, ?_⟩
    · rw [← String.toList_inj, String.toList_intercalate, hlists]
      exact (List.intercalate_splitOn '.').symm
    · intro step hstep
      obtain ⟨piece, hpiece, rfl⟩ := List.mem_map.1 hstep
      rw [String.toList_ofList]
      exact not_mem_of_mem_splitOn hpiece

/-! ## Nodes -/

/-- A key of an object, or a position of 64 bits in an array. -/
inductive Place where
  | key (key : String)
  | position (i : UInt64)

/-- A place as a step of a path: a key as it is, and a position in decimal. -/
def Place.text : Place → String
  | .key k => k
  | .position i => toString i.toNat

/-- The path that writes the places. -/
def placesPath (places : List Place) : String := ".".intercalate (places.map Place.text)

namespace Value

/-- The node stands at these places in the value. -/
inductive At : Value → List Place → Value → Prop
  | root (v : Value) : At v [] v
  | member {v w node : Value} {key : String} {places : List Place} (first : v.HasMember key w)
      (rest : At w places node) : At v (.key key :: places) node
  | element {v w node : Value} {i : UInt64} {places : List Place} (first : v.HasElement i.toNat w)
      (rest : At w places node) : At v (.position i :: places) node

theorem At.leadsTo {v node : Value} {places : List Place} (h : v.At places node) :
    v.LeadsTo (places.map Place.text) node := by
  induction h with
  | root v => exact .nil v
  | member first _ ih => exact .cons (.inl first) ih
  | @element _ _ _ i _ first _ ih =>
    refine .cons (.inr ⟨i.toNat, ?_, first⟩) ih
    rw [Place.text, Nat.toString_eq_ofList_toDigits, String.toList_ofList]
    exact writesIndex_toDigits i.toNat_lt

end Value

theorem Place.no_point {p : Place} (h : ∀ k, p = .key k → '.' ∉ k.toList) :
    '.' ∉ p.text.toList := by
  cases p with
  | key k => exact h k rfl
  | position i =>
    rw [Place.text, Nat.toString_eq_ofList_toDigits, String.toList_ofList]
    exact fun hpoint => absurd ((writesDigits_toDigits i.toNat).isDigit '.' hpoint) (by decide)

theorem isPath_placesPath {places : List Place} (hne : places ≠ [])
    (h : ∀ k, .key k ∈ places → '.' ∉ k.toList) :
    IsPath (placesPath places) (places.map Place.text) where
  path_eq := rfl
  steps_ne := by simpa using hne
  no_point step hstep := by
    obtain ⟨p, hp, rfl⟩ := List.mem_map.1 hstep
    exact Place.no_point fun k hk => h k (hk ▸ hp)

/-! ## Paths -/

namespace Value

variable {data v : Value} {path : String}

theorem find?_of_hasMember (h : data.HasMember path v) : data.find? path = some v := by
  rw [find?, rootMember?_eq_some_iff.2 h, Option.some_or]

theorem find?_of_not_hasMember (h : ∀ w, ¬ data.HasMember path w) :
    data.find? path = some v ↔ ∃ steps, IsPath path steps ∧ data.LeadsTo steps v := by
  have hroot : data.rootMember? path = none :=
    Option.eq_none_iff_forall_ne_some.2 fun w hw => h w (rootMember?_eq_some_iff.1 hw)
  rw [find?, hroot, Option.none_or, follow?_eq_some_iff]
  simp only [isPath_iff, exists_eq_left']

/-- A node is found at the path of its places, unless a member of the root comes before it. -/
theorem At.find?_of_not_hasMember {places : List Place} (h : data.At places v)
    (hne : places ≠ []) (hkeys : ∀ k, .key k ∈ places → '.' ∉ k.toList)
    (hroot : ∀ w, ¬ data.HasMember (placesPath places) w) :
    data.find? (placesPath places) = some v :=
  (Value.find?_of_not_hasMember hroot).2 ⟨_, isPath_placesPath hne hkeys, h.leadsTo⟩

/-- No member of the root comes before a child of the root but this child itself. -/
theorem At.find?_of_child {p : Place} (h : data.At [p] v)
    (hkeys : ∀ k, .key k ∈ [p] → '.' ∉ k.toList) : data.find? (placesPath [p]) = some v := by
  cases h with
  | @member _ _ _ k _ first rest =>
    cases rest
    have hpath : placesPath [.key k] = k := String.intercalate_singleton
    rw [hpath]
    exact find?_of_hasMember first
  | element first rest =>
    obtain ⟨elements, rfl, hw⟩ := first
    refine At.find?_of_not_hasMember (.element ⟨elements, rfl, hw⟩ rest) (List.cons_ne_nil _ _)
      hkeys ?_
    rintro w ⟨before, after, hobj, -⟩
    cases hobj

end Value

/-- **What a path leads to.** A member of the root whose key is the whole path is found at it. If
there is none, a value is found exactly if the steps of the path lead to it, and so each node but
the root is found at the path of its places, provided that no key among them has a point in it. A
child of the root is found there in any case. -/
theorem find?_iff_leadsTo (data : Value) :
    (∀ path v, data.HasMember path v → data.find? path = some v) ∧
      (∀ path, (∀ w, ¬ data.HasMember path w) → ∀ v,
        data.find? path = some v ↔ ∃ steps, IsPath path steps ∧ data.LeadsTo steps v) ∧
      ∀ places node, data.At places node → places ≠ [] →
        (∀ k, .key k ∈ places → '.' ∉ k.toList) →
        (places.length = 1 ∨ ∀ w, ¬ data.HasMember (placesPath places) w) →
        data.find? (placesPath places) = some node := by
  refine ⟨fun path v h => Value.find?_of_hasMember h,
    fun path h v => Value.find?_of_not_hasMember h, fun places node h hne hkeys hroot => ?_⟩
  rcases hroot with hlength | hnone
  · obtain ⟨p, rfl⟩ := List.length_eq_one_iff.1 hlength
    exact h.find?_of_child hkeys
  · exact h.find?_of_not_hasMember hne hkeys hnone

/-- An order with its items and a flat key beside them. -/
def basket : Value :=
  .obj [("", .obj [("", .bool true)]),
    ("items", .arr [.str "ticket", .obj [("0", .str "food")]]),
    ("items.0", .null)]

/-- The flat key hides the first item. The food stands behind a position, which may be written with
a plus and zeros, and behind a key that looks like a position; there is no third item. -/
theorem find?_iff_leadsTo_basket :
    basket.HasMember "items.0" .null ∧ basket.find? "items.0" = some .null ∧
      basket.At [.key "items", .position 1, .key "0"] (.str "food") ∧
      basket.find? (placesPath [.key "items", .position 1, .key "0"]) = some (.str "food") ∧
      (∀ w, ¬ basket.HasMember "items.+01.0" w) ∧
      (∃ steps, IsPath "items.+01.0" steps ∧ basket.LeadsTo steps (.str "food")) ∧
      basket.find? "items.2" = none := by
  have hno {path : String} (h : basket.rootMember? path = none) : ∀ w, ¬ basket.HasMember path w :=
    fun w hw => by simpa [h] using Value.rootMember?_eq_some_iff.2 hw
  have hflat : basket.HasMember "items.0" .null :=
    Value.rootMember?_eq_some_iff.1 (by rfl)
  have hfood : basket.At [.key "items", .position 1, .key "0"] (.str "food") :=
    .member (Value.rootMember?_eq_some_iff.1 (by rfl))
      (.element ⟨_, rfl, by rfl⟩ (.member (Value.rootMember?_eq_some_iff.1 (by rfl)) (.root _)))
  have hplus : ∀ w, ¬ basket.HasMember "items.+01.0" w := hno (by rfl)
  obtain ⟨hmember, hsteps, hnode⟩ := find?_iff_leadsTo basket
  refine ⟨hflat, hmember _ _ hflat, hfood, ?_, hplus, ?_, ?_⟩
  · refine hnode _ _ hfood (List.cons_ne_nil _ _) (by simp) (.inr (hno ?_))
    rfl
  · exact (hsteps _ hplus _).1 (by rfl)
  · rfl

end Rulebook
