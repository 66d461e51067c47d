import Rulebook.Proofs.Compile.Rule
import Rulebook.Proofs.Definition.FreshId

/-!
# Batches

A batch is compiled item by item, and what is said here of batches comes down to that.

* `compileItems_eq`: a batch is what compiling its items one after the other gives. The rules are
  kept, the errors are skipped, each with the position of its item.
* `alike_itemOutcomes`: what one item comes to does not depend on the others, on what was compiled
  before, or on which identifiers are generated. Only the version of a rule and an identifier that
  was generated do.

What a compiler has compiled matters for nothing but the version (`compileRead_cases`).
-/

namespace Rulebook

namespace Compiler

/-! ## One definition -/

/-- **What reading gave either fails to compile or compiles**, whatever was compiled before. In the
first case the compiler stays as it is, in the second it counts one more rule. -/
theorem compileRead_cases (x : Except Json.Fault RuleDefinition) :
    (∃ e, ∀ k : Compiler, k.compileRead x = (.error e, k)) ∨
      ∃ d c, ∀ k : Compiler, k.compileRead x = (.ok (k.ruleOf d c), ⟨k.compiled + 1⟩) := by
  cases x with
  | error f => exact .inl ⟨.definition f, fun k => rfl⟩
  | ok d =>
    by_cases hid : d.id = ""
    · exact .inl ⟨.emptyId, fun k => k.compile_of_id_eq_empty hid⟩
    · cases hc : d.condition.compile with
      | error f => exact .inl ⟨.condition f, fun k => k.compile_of_error hid hc⟩
      | ok c => exact .inr ⟨d, c, fun k => k.compile_of_ok hid hc⟩

/-- Two outcomes of one definition: the same error, or two rules that differ at most in their
versions, and in their identifiers unless these were given. -/
inductive Alike (given : Bool) : Except RuleError Rule → Except RuleError Rule → Prop
  | refused (e : RuleError) : Alike given (.error e) (.error e)
  | compiled {r r' : Rule} (h : r' = { r with id := r'.id, version := r'.version })
      (hid : given = true → r'.id = r.id) : Alike given (.ok r) (.ok r')

theorem alike_compile (k k' : Compiler) {given : Bool} {d : RuleDefinition} (id : String)
    (hempty : d.id = "" ↔ id = "") (hid : given = true → id = d.id) :
    Alike given (k.compile d).1 (k'.compile { d with id }).1 := by
  by_cases hd : d.id = ""
  · have hd' : ({ d with id } : RuleDefinition).id = "" := hempty.1 hd
    rw [k.compile_of_id_eq_empty hd, k'.compile_of_id_eq_empty hd']
    exact .refused .emptyId
  · have hd' : ({ d with id } : RuleDefinition).id ≠ "" := fun h => hd (hempty.2 h)
    cases hc : d.condition.compile with
    | error f =>
      rw [k.compile_of_error hd hc, k'.compile_of_error hd' hc]
      exact .refused (.condition f)
    | ok c =>
      rw [k.compile_of_ok hd hc, k'.compile_of_ok hd' hc]
      exact .compiled rfl hid

/-! ## One item -/

/-- What an item at a position reads as. -/
def readItem (freshId : Nat → String) (index : Nat) (item : Value) :
    Except Json.Fault RuleDefinition :=
  (RuleDefinition.ofValue (freshId index) item).mapError .shape

theorem alike_compileRead (k k' : Compiler) {freshId freshId' : Nat → String}
    (h : ∀ i, freshId i ≠ "") (h' : ∀ i, freshId' i ≠ "") (i j : Nat) (item : Value) :
    Alike (RuleDefinition.givesId item) (k.compileRead (readItem freshId i item)).1
      (k'.compileRead (readItem freshId' j item)).1 := by
  have hself := RuleDefinition.ofValue_eq_map (freshId i) (freshId i) item
  have hother := RuleDefinition.ofValue_eq_map (freshId i) (freshId' j) item
  unfold readItem
  cases hd : RuleDefinition.ofValue (freshId i) item with
  | error e =>
    rw [hd] at hother
    rw [hother]
    exact .refused (.definition (.shape e))
  | ok d =>
    rw [hd] at hself hother
    rw [hother]
    have hself : d = d.withFreshId (RuleDefinition.givesId item) (freshId i) :=
      Except.ok.inj hself
    unfold RuleDefinition.withFreshId at hself
    show Alike _ (k.compile d).1 (k'.compile (d.withFreshId _ _)).1
    unfold RuleDefinition.withFreshId
    split
    · exact alike_compile k k' d.id Iff.rfl fun _ => rfl
    · next hg =>
      -- The identifier was generated, and no generated one is empty.
      rw [if_neg hg] at hself
      have hid : d.id = freshId i := by rw [hself]
      have hempty : d.id = "" ↔ freshId' j = "" :=
        ⟨fun hd => absurd (hid.symm.trans hd) (h i), fun hd => absurd hd (h' j)⟩
      exact alike_compile k k' (freshId' j) hempty fun hg' => absurd hg' hg

/-! ## Items one after the other -/

/-- Compiles definitions one after the other. -/
def compileEach (c : Compiler) :
    List (Except Json.Fault RuleDefinition) → List (Except RuleError Rule) × Compiler
  | [] => ([], c)
  | x :: rest =>
    let (outcome, c) := c.compileRead x
    let (outcomes, c) := compileEach c rest
    (outcome :: outcomes, c)

theorem length_compileEach (c : Compiler) (xs : List (Except Json.Fault RuleDefinition)) :
    (c.compileEach xs).1.length = xs.length := by
  induction xs generalizing c with
  | nil => rfl
  | cons x xs ih => exact congrArg Nat.succ (ih (c.compileRead x).2)

/-- Each outcome is that of its definition alone, for a compiler that the ones before it left. -/
theorem getElem?_compileEach (c : Compiler) (xs : List (Except Json.Fault RuleDefinition))
    (i : Nat) :
    ∃ k : Compiler, (c.compileEach xs).1[i]? = xs[i]?.map fun x => (k.compileRead x).1 := by
  induction xs generalizing c i with
  | nil => exact ⟨c, rfl⟩
  | cons x xs ih =>
    cases i with
    | zero => exact ⟨c, rfl⟩
    | succ i => exact ih (c.compileRead x).2 i

/-- What the items of a batch come to, compiled one after the other. -/
def itemOutcomes (c : Compiler) (freshId : Nat → String) (items : List Value) :
    List (Except RuleError Rule) × Compiler :=
  c.compileEach (items.mapIdx (readItem freshId))

theorem length_itemOutcomes (c : Compiler) (freshId : Nat → String) (items : List Value) :
    (c.itemOutcomes freshId items).1.length = items.length := by
  rw [itemOutcomes, length_compileEach, List.length_mapIdx]

/-- **An item comes to the same in every batch**, wherever it stands, whatever else is there, and
whatever was compiled before. -/
theorem alike_itemOutcomes (c c' : Compiler) {freshId freshId' : Nat → String}
    (h : ∀ i, freshId i ≠ "") (h' : ∀ i, freshId' i ≠ "") {items items' : List Value} {i j : Nat}
    {item : Value} (hi : items[i]? = some item) (hj : items'[j]? = some item) :
    ∃ o o', (c.itemOutcomes freshId items).1[i]? = some o ∧
      (c'.itemOutcomes freshId' items').1[j]? = some o' ∧
      Alike (RuleDefinition.givesId item) o o' := by
  obtain ⟨k, hk⟩ := c.getElem?_compileEach (items.mapIdx (readItem freshId)) i
  obtain ⟨k', hk'⟩ := c'.getElem?_compileEach (items'.mapIdx (readItem freshId')) j
  rw [List.getElem?_mapIdx, hi] at hk
  rw [List.getElem?_mapIdx, hj] at hk'
  exact ⟨_, _, hk, hk', alike_compileRead k k' h h' i j item⟩

/-! ## What is kept and what is skipped -/

/-- The errors among some outcomes, the first of which stands at a position. -/
def skips (index : Nat) : List (Except RuleError Rule) → List Skip
  | [] => []
  | .ok _ :: rest => skips (index + 1) rest
  | .error e :: rest => ⟨index, e⟩ :: skips (index + 1) rest

theorem mem_skips {index : Nat} {outcomes : List (Except RuleError Rule)} {s : Skip} :
    s ∈ skips index outcomes ↔
      ∃ i, s.index = index + i ∧ outcomes[i]? = some (.error s.error) := by
  induction outcomes generalizing index with
  | nil => simp [skips]
  | cons o rest ih =>
    have hrest : s ∈ skips (index + 1) rest ↔
        ∃ i, s.index = index + (i + 1) ∧ rest[i]? = some (.error s.error) := by
      rw [ih]
      simp only [Nat.add_assoc, Nat.add_comm 1]
    have hsplit : (∃ i, s.index = index + i ∧ (o :: rest)[i]? = some (.error s.error)) ↔
        (s.index = index ∧ o = .error s.error) ∨ s ∈ skips (index + 1) rest := by
      rw [hrest]
      constructor
      · rintro ⟨i, hi, ho⟩
        cases i with
        | zero => exact .inl ⟨hi, by simpa using ho⟩
        | succ i => exact .inr ⟨i, hi, by simpa using ho⟩
      · rintro (⟨hi, ho⟩ | ⟨i, hi, ho⟩)
        · exact ⟨0, hi, by simpa using ho⟩
        · exact ⟨i + 1, hi, by simpa using ho⟩
    rw [hsplit]
    obtain ⟨i, e⟩ := s
    cases o with
    | ok r => simp [skips]
    | error e' => simp [skips, eq_comm]

theorem pairwise_skips (index : Nat) (outcomes : List (Except RuleError Rule)) :
    (skips index outcomes).Pairwise (·.index < ·.index) := by
  induction outcomes generalizing index with
  | nil => exact .nil
  | cons o rest ih =>
    cases o with
    | ok r => exact ih (index + 1)
    | error e =>
      refine List.pairwise_cons.2 ⟨fun s hs => ?_, ih (index + 1)⟩
      obtain ⟨i, hi, -⟩ := mem_skips.1 hs
      show index < s.index
      omega

theorem length_add_length_skips (index : Nat) (outcomes : List (Except RuleError Rule)) :
    (outcomes.filterMap Except.toOption).length + (skips index outcomes).length =
      outcomes.length := by
  induction outcomes generalizing index with
  | nil => rfl
  | cons o rest ih =>
    have hrest := ih (index + 1)
    cases o with
    | ok | error =>
      simp only [List.filterMap_cons, Except.toOption, skips, List.length_cons]
      omega

/-- **A batch is its items compiled one after the other.** -/
theorem compileItems_eq (freshId : Nat → String) (c : Compiler) (index : Nat)
    (items : List Value) :
    compileItems freshId c index items =
      let (outcomes, c') := c.compileEach (items.mapIdx fun i => readItem freshId (index + i))
      (⟨outcomes.filterMap Except.toOption, skips index outcomes⟩, c') := by
  induction items generalizing c index with
  | nil => rfl
  | cons item rest ih =>
    have hread : (item :: rest).mapIdx (fun i => readItem freshId (index + i)) =
        readItem freshId index item ::
          rest.mapIdx fun i => readItem freshId (index + 1 + i) := by
      rw [List.mapIdx_cons]
      simp only [Nat.add_zero, Nat.add_assoc, Nat.add_comm 1]
    rw [hread, compileItems, ← readItem, compileEach]
    rcases compileRead_cases (readItem freshId index item) with ⟨e, he⟩ | ⟨d, cond, hd⟩
    · rw [he c]
      simp only [ih, skips, List.filterMap_cons, Except.toOption]
    · rw [hd c]
      simp only [ih, skips, List.filterMap_cons, Except.toOption]

end Compiler
end Rulebook
