import Rulebook.Comparison
import Rulebook.Proofs.Compile.Cases
import Rulebook.Proofs.Compile.Rule
import Rulebook.Proofs.Condition.Footprint

/-!
# The required fields of a rule

The required fields of a rule are what a caller has to have at hand before the rule is evaluated.

**Theorem (`requiredFields_footprint`).** The paths of any condition, compiled or not, decide how
it is evaluated, and no other path is looked up on the way. The required fields of a compiled rule
are the paths of the matcher keys at any depth of its definition, each once and in increasing order.
Two sources of data that agree on the required fields of an engine's rules are therefore matched by
the same rules.

The first part is about evaluating alone (`Rulebook.Proofs.Condition.Footprint`). The second is an
induction on the nesting of groups: a matcher becomes conditions about its key and nothing else, a
group becomes a group of what its conditions become.
-/

namespace Rulebook

/-! ## The keys of a definition -/

namespace ConditionDefinition

/-- A matcher with this key stands in the definition, at some depth. -/
def HasKey (d : ConditionDefinition) (key : String) : Prop :=
  ∃ path n m, d.At path n ∧ n.IsMatcher m ∧ m.key = key

theorem hasKey_iff_matcher {d : ConditionDefinition} {m : MatcherDefinition} {key : String}
    (hm : d.IsMatcher m) : d.HasKey key ↔ m.key = key := by
  constructor
  · rintro ⟨path, n, m', hat, hm', rfl⟩
    cases hat with
    | here => rw [hm.unique hm']
    | member hg _ _ => exact absurd hm hg.not_isMatcher
  · rintro rfl
    exact ⟨[], d, m, .here d, hm, rfl⟩

theorem hasKey_iff_group {d : ConditionDefinition} {g : GroupDefinition} {key : String}
    (hg : d.IsGroup g) : d.HasKey key ↔ ∃ c ∈ g.conditions, c.HasKey key := by
  constructor
  · rintro ⟨path, n, m, hat, hm, hkey⟩
    cases hat with
    | here => exact absurd hm hg.not_isMatcher
    | member hg' hc hat =>
      obtain rfl := hg.unique hg'
      exact ⟨_, List.mem_of_getElem? hc, _, n, m, hat, hm, hkey⟩
  · rintro ⟨c, hc, path, n, m, hat, hm, hkey⟩
    obtain ⟨i, hi⟩ := List.getElem?_of_mem hc
    exact ⟨i :: path, n, m, .member hg hi hat, hm, hkey⟩

end ConditionDefinition

/-! ## The paths of what is compiled -/

/-- A compiled matcher refers to its key, and to nothing else. -/
theorem MatcherDefinition.mem_termPaths_compile {m : MatcherDefinition} {c : Condition}
    (h : m.compile = .ok c) {path : String} :
    path ∈ c.termPaths ↔ path = (Placeholder.parse m.key).path := by
  obtain ⟨o, -, -, ⟨-, rfl⟩ | ⟨-, v, -, rfl⟩ | ⟨-, hne, rfl⟩⟩ := compile_eq_ok h
  · simp [Condition.termPaths, keyTerm, Term.path?]
  · simp [Condition.termPaths, keyTerm, Term.path?]
  · obtain ⟨v, hv⟩ := List.exists_mem_of_ne_nil m.values hne
    rw [Condition.any, Condition.termPaths, Condition.mem_membersPaths]
    constructor
    · rintro ⟨c, hc, hp⟩
      obtain ⟨w, -, rfl⟩ := List.mem_map.1 hc
      simpa [Condition.termPaths, keyTerm, Term.path?] using hp
    · intro hp
      refine ⟨_, List.mem_map_of_mem hv, ?_⟩
      simpa [Condition.termPaths, keyTerm, Term.path?] using hp

theorem ConditionDefinition.mem_termPaths_compile {d : ConditionDefinition} {c : Condition}
    (h : d.compile = .ok c) {path : String} :
    path ∈ c.termPaths ↔ ∃ key, d.HasKey key ∧ (Placeholder.parse key).path = path := by
  induction d using ConditionDefinition.induction generalizing c with
  | step d ih =>
    rcases compile_eq_ok h with ⟨g, cs, k, hg, -, -, hcs, rfl⟩ | ⟨m, hm, hc⟩
    · have hiff : List.Forall₂
          (fun e c => path ∈ c.termPaths ↔
            ∃ key, e.HasKey key ∧ (Placeholder.parse key).path = path)
          g.conditions cs :=
        forall₂_imp_of_mem hcs fun e he c hec => ih g hg e he hec
      rw [Condition.termPaths, Condition.mem_membersPaths, exists_mem_iff_of_forall₂ hiff]
      simp only [hasKey_iff_group hg]
      constructor
      · rintro ⟨e, he, key, hkey, hp⟩
        exact ⟨key, ⟨e, he, hkey⟩, hp⟩
      · rintro ⟨key, ⟨e, he, hkey⟩, hp⟩
        exact ⟨e, he, key, hkey, hp⟩
    · rw [MatcherDefinition.mem_termPaths_compile hc]
      simp only [hasKey_iff_matcher hm, exists_eq_left']
      exact eq_comm

/-! ## The order of the paths -/

namespace Condition

theorem pairwise_insertPath {path : String} {paths : List String}
    (h : paths.Pairwise (· < ·)) : (insertPath path paths).Pairwise (· < ·) := by
  induction paths with
  | nil => exact List.pairwise_singleton _ path
  | cons p rest ih =>
    obtain ⟨hp, hrest⟩ := List.pairwise_cons.1 h
    simp only [insertPath]
    split
    · next hlt =>
      refine List.pairwise_cons.2 ⟨fun q hq => ?_, h⟩
      rcases List.mem_cons.1 hq with rfl | hq
      · exact hlt
      · exact String.lt_trans hlt (hp q hq)
    · next hle =>
      split
      · exact h
      · next hne =>
        refine List.pairwise_cons.2 ⟨fun q hq => ?_, ih hrest⟩
        rcases mem_insertPath.1 hq with rfl | hq
        · -- The new path is neither before `p` nor `p` itself.
          exact Classical.not_not.1 fun hge => hne (String.le_antisymm hge hle)
        · exact hp q hq

theorem pairwise_variablePaths (c : Condition) : c.variablePaths.Pairwise (· < ·) := by
  unfold variablePaths
  induction c.termPaths with
  | nil => exact .nil
  | cons p rest ih => exact pairwise_insertPath ih

end Condition

/-! ## Engines -/

namespace Engine

variable {ρ : Type} [HasCondition ρ]

theorem matching_congr {ctx ctx' : Context} {rules : List ρ}
    (h : ∀ r ∈ rules, (HasCondition.condition r).evaluate ctx =
      (HasCondition.condition r).evaluate ctx') : matching ctx rules = matching ctx' rules := by
  induction rules with
  | nil => rfl
  | cons r rest ih =>
    rw [List.forall_mem_cons] at h
    rw [matching, matching, h.1, ih h.2]

/-- An engine's answer depends on the paths of its rules' conditions only. -/
theorem evaluate_congr {e : Engine ρ} {f g : String → Option Value}
    (h : ∀ r ∈ e.rules, ∀ p ∈ (HasCondition.condition r).termPaths, f p = g p) :
    e.evaluate f = e.evaluate g := by
  have hm : matching (e.context f) e.rules = matching (e.context g) e.rules :=
    matching_congr fun r hr => Condition.evaluate_congr (h r hr)
  rw [evaluate, evaluate, hm]

end Engine

/-! ## Required fields -/

/-- **Required fields are a sound summary of what is read.** Two ways of looking paths up that
agree on the paths of a condition evaluate it to one outcome by the same look-ups, all of them of
such paths. The required fields of a compiled rule are the paths of the keys in its definition, in
increasing order. An engine with compiled rules finds the same ones to match in two sources of data
that agree on the required fields of its rules. -/
theorem requiredFields_footprint :
    (∀ (judge : Judge) (convert : String → Option Value → Logged (Option Value)) (c : Condition)
        (f g : String → Option Value), (∀ p ∈ c.variablePaths, f p = g p) →
        (c.evaluate ⟨f, judge, convert⟩).value = (c.evaluate ⟨g, judge, convert⟩).value ∧
          (c.evaluate ⟨f, judge, convert⟩).paths = (c.evaluate ⟨g, judge, convert⟩).paths ∧
          ∀ p ∈ (c.evaluate ⟨f, judge, convert⟩).paths, p ∈ c.variablePaths) ∧
      (∀ (k : Compiler) (d : RuleDefinition) (r : Rule), (k.compile d).1 = .ok r →
        r.requiredFields.Pairwise (· < ·) ∧
          ∀ p, p ∈ r.requiredFields ↔
            ∃ key, d.condition.HasKey key ∧ (Placeholder.parse key).path = p) ∧
      ∀ (e : Engine Rule) (f g : String → Option Value),
        (∀ r ∈ e.rules, ∃ (k : Compiler) (d : RuleDefinition), (k.compile d).1 = .ok r) →
        (∀ r ∈ e.rules, ∀ p ∈ r.requiredFields, f p = g p) →
        (e.evaluate f).value = (e.evaluate g).value := by
  refine ⟨fun judge convert c f g h => ?_, fun k d r h => ?_, fun e f g hrules h => ?_⟩
  · have hrun : c.evaluate ⟨f, judge, convert⟩ = c.evaluate ⟨g, judge, convert⟩ :=
      Condition.evaluate_congr fun p hp => h p (Condition.mem_variablePaths.2 hp)
    refine ⟨by rw [hrun], by rw [hrun], fun p hp => ?_⟩
    exact Condition.mem_variablePaths.2 ((Condition.paths_evaluate_sublist c).subset hp)
  · obtain ⟨-, c, hc, rfl⟩ := Compiler.compile_eq_ok.1 h
    exact ⟨Condition.pairwise_variablePaths c, fun p =>
      Condition.mem_variablePaths.trans (ConditionDefinition.mem_termPaths_compile hc)⟩
  · have hrun : e.evaluate f = e.evaluate g := by
      refine Engine.evaluate_congr fun r hr p hp => ?_
      obtain ⟨k, d, hk⟩ := hrules r hr
      obtain ⟨-, c, -, rfl⟩ := Compiler.compile_eq_ok.1 hk
      exact h _ hr p (Condition.mem_variablePaths.2 hp)
    rw [hrun]

/-- Data about an order. `vipOrder` does not ask for the currency. -/
def orderData (currency : Option Value) (path : String) : Option Value :=
  if path = "order.amount" then some (.num (.whole 12 (by decide)))
  else if path = "order.currency" then currency
  else none

theorem orderData_eq {p : String} (hp : p ∈ vipOrderCondition.variablePaths)
    (x y : Option Value) : orderData x p = orderData y p := by
  have hpaths : vipOrderCondition.variablePaths = ["order.amount", "user.level", "user.note"] := by
    cbv
  have hne : p ≠ "order.currency" := by
    rintro rfl
    rw [hpaths] at hp
    exact absurd hp (by decide)
  rw [orderData, orderData, if_neg hne, if_neg hne]

theorem requiredFields_footprint_vipOrder :
    let r := Compiler.new.ruleOf vipOrder vipOrderCondition
    let f := orderData none
    let g := orderData (some (.str "EUR"))
    let e : Engine Rule := ⟨.standard .exact, fun _ v => pure v, .braces, [r, r]⟩
    (Compiler.new.compile vipOrder).1 = .ok r ∧ (∀ p ∈ r.requiredFields, f p = g p) ∧
      (r.condition.evaluate (e.context f)).value = (r.condition.evaluate (e.context g)).value ∧
      (∀ p, p ∈ r.requiredFields ↔
        ∃ key, vipOrder.condition.HasKey key ∧ (Placeholder.parse key).path = p) ∧
      (e.evaluate f).value = (e.evaluate g).value := by
  intro r f g e
  have hr : ∀ s ∈ e.rules, s = r := fun s hs => by simpa [e] using hs
  have hagree : ∀ p ∈ r.requiredFields, f p = g p := fun p hp => orderData_eq hp _ _
  refine ⟨compile_vipOrder, hagree, ?_, ?_, ?_⟩
  · exact (requiredFields_footprint.1 _ _ vipOrderCondition f g hagree).1
  · exact (requiredFields_footprint.2.1 Compiler.new vipOrder r compile_vipOrder).2
  · refine requiredFields_footprint.2.2 e f g (fun s hs => ?_) (fun s hs => ?_)
    · exact ⟨Compiler.new, vipOrder, hr s hs ▸ compile_vipOrder⟩
    · exact hr s hs ▸ hagree

end Rulebook
