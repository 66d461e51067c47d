import Mathlib.Logic.Relation
import Rulebook.Proofs.Condition.Skipping

/-!
# Regrouping conditions

The members of a group may stand in another order, a group among them may give way to its own
members if it has the same connective, a member that is there twice is needed only once, and a group
of one member stands for this member (`Condition.Regroups`). All of this may be done at any depth.

**Theorem (`same_outcome_of_regrouped`).** Regrouping a condition changes nothing about its success,
nor about its outcome if it is a group of the same connective as before.

What a group is evaluated to does depend on the order of its members as far as its events go, and
the members fail in ways of their own. But a group, as a member, decides a group with its own
connective if and only if one of its members does (`decides_group_iff`), in whatever order they
stand, and the failure of a group is told by its connective alone.
-/

namespace Rulebook
namespace Condition

variable {ctx : Context} {k : Connective} {c c' m m' : Condition} {connective : String}
  {before after members members' : List Condition}

/-- The second condition is the first with one group in it written in another way. -/
inductive Regroups : Condition → Condition → Prop
  | permute (k : Connective) {members members' : List Condition} (h : members.Perm members') :
      Regroups (.group k.name members) (.group k.name members')
  | splice (k : Connective) (before inner after : List Condition) :
      Regroups (.group k.name (before ++ .group k.name inner :: after))
        (.group k.name (before ++ inner ++ after))
  | drop (k : Connective) {before after : List Condition} {m : Condition}
      (h : m ∈ before ++ after) :
      Regroups (.group k.name (before ++ m :: after)) (.group k.name (before ++ after))
  | unwrap (k : Connective) (m : Condition) : Regroups (.group k.name [m]) m
  | inside (connective : String) (before after : List Condition) {m m' : Condition}
      (h : Regroups m m') :
      Regroups (.group connective (before ++ m :: after))
        (.group connective (before ++ m' :: after))

/-! ## When a group decides a group of its kind -/

theorem decides_congr (k : Connective) :
    (c.Decides ctx k ↔ c'.Decides ctx k) ↔ (c.Succeeds ctx ↔ c'.Succeeds ctx) := by
  unfold Decides Succeeds
  cases (c.evaluate ctx).value.isSuccess <;> cases (c'.evaluate ctx).value.isSuccess <;>
    cases k <;> decide

theorem not_decides_nil (k : Connective) : ¬ (group k.name []).Decides ctx k := by
  unfold Decides
  cases k with
  | and => rw [evaluate_and, allHold]; decide
  | or => rw [evaluate_or, anyHolds]; decide

/-- **A group decides as one of its members does.** -/
theorem decides_group_iff :
    (group k.name members).Decides ctx k ↔ ∃ m ∈ members, m.Decides ctx k := by
  induction members with
  | nil => simp [not_decides_nil]
  | cons m rest ih =>
    simp only [List.mem_cons, exists_eq_or_imp]
    by_cases hm : m.Decides ctx k
    · refine iff_of_true ?_ (.inl hm)
      rw [Decides, evaluate_cons_of_decides hm]
      exact isSuccess_groupOutcome k k.deciding
    · rw [← ih, or_iff_right hm, Decides, evaluate_cons_of_not_decides hm, Decides]

theorem succeeds_group_congr
    (h : (∃ m ∈ members, m.Decides ctx k) ↔ ∃ m ∈ members', m.Decides ctx k) :
    (group k.name members).Succeeds ctx ↔ (group k.name members').Succeeds ctx := by
  rwa [← decides_congr k, decides_group_iff, decides_group_iff]

/-- The outcome of a group is told by its connective and its success. -/
theorem value_group (k : Connective) (members : List Condition) :
    ((group k.name members).evaluate ctx).value =
      groupOutcome k ((group k.name members).evaluate ctx).value.isSuccess := by
  cases k with
  | and => rw [evaluate_and, Traced.value_map, isSuccess_groupOutcome]
  | or => rw [evaluate_or, Traced.value_map, isSuccess_groupOutcome]

theorem value_group_congr
    (h : (group connective members).Succeeds ctx ↔ (group connective members').Succeeds ctx) :
    ((group connective members).evaluate ctx).value =
      ((group connective members').evaluate ctx).value := by
  cases hk : Connective.ofName? connective with
  | none => rw [evaluate, evaluate, hk]
  | some k =>
    rw [Connective.eq_name_of_ofName? hk] at h ⊢
    rw [value_group k members, value_group k members', Bool.eq_iff_iff.2 h]

/-- Members that succeed alike can stand for each other. -/
theorem succeeds_inside (h : m.Succeeds ctx ↔ m'.Succeeds ctx) :
    (group connective (before ++ m :: after)).Succeeds ctx ↔
      (group connective (before ++ m' :: after)).Succeeds ctx := by
  cases hk : Connective.ofName? connective with
  | none =>
    -- Its members are not evaluated, so they may be anything.
    unfold Succeeds
    rw [evaluate, evaluate, hk]
  | some k =>
    have hm : m.Decides ctx k ↔ m'.Decides ctx k := (decides_congr k).2 h
    rw [Connective.eq_name_of_ofName? hk]
    refine succeeds_group_congr ?_
    simp only [List.mem_append, List.mem_cons, or_and_right, exists_or, exists_eq_left, hm]

/-! ## Regrouping -/

/-- **One rewriting keeps the success**, by induction on how deep it stands. -/
theorem Regroups.succeeds_iff (h : Regroups c c') (ctx : Context) :
    c.Succeeds ctx ↔ c'.Succeeds ctx := by
  induction h with
  | permute k h =>
    refine succeeds_group_congr ?_
    simp only [h.mem_iff]
  | splice k before inner after =>
    -- The inner group decides if and only if one of its members does.
    refine succeeds_group_congr ?_
    simp only [List.mem_append, List.mem_cons, or_and_right, exists_or, exists_eq_left,
      decides_group_iff, or_assoc]
  | @drop k before after m hm =>
    -- If it is the dropped member that decides, then so does the one that it repeats.
    refine succeeds_group_congr ⟨?_, ?_⟩
    · rintro ⟨n, hn, hdecides⟩
      rcases List.mem_append.1 hn with hn | hn
      · exact ⟨n, List.mem_append_left _ hn, hdecides⟩
      · rcases List.mem_cons.1 hn with rfl | hn
        · exact ⟨n, hm, hdecides⟩
        · exact ⟨n, List.mem_append_right _ hn, hdecides⟩
    · rintro ⟨n, hn, hdecides⟩
      exact ⟨n, ((List.sublist_cons_self m after).append_left before).subset hn, hdecides⟩
  | unwrap k m =>
    rw [← decides_congr k, decides_group_iff]
    simp
  | inside connective before after _ ih => exact succeeds_inside ih

end Condition

/-- **Regrouping keeps the outcome.** However often and at whatever depths a condition is regrouped,
in either direction, it succeeds in the same contexts; and if it is a group with the same connective
before and after, it has the same outcome. -/
theorem same_outcome_of_regrouped {c c' : Condition}
    (h : Relation.EqvGen Condition.Regroups c c') (ctx : Context) :
    (c.Succeeds ctx ↔ c'.Succeeds ctx) ∧
      ∀ (connective : String) (members members' : List Condition),
        c = .group connective members → c' = .group connective members' →
          (c.evaluate ctx).value = (c'.evaluate ctx).value := by
  have hsucceeds : c.Succeeds ctx ↔ c'.Succeeds ctx := by
    induction h with
    | rel _ _ h => exact h.succeeds_iff ctx
    | refl => exact Iff.rfl
    | symm _ _ _ ih => exact ih.symm
    | trans _ _ _ _ _ ih₁ ih₂ => exact ih₁.trans ih₂
  refine ⟨hsucceeds, ?_⟩
  rintro connective members members' rfl rfl
  exact Condition.value_group_congr hsucceeds

/-- A group of one member, a group within a group of its kind, a repetition and another order. -/
theorem same_outcome_of_regrouped_goldUser :
    let gold : Condition := .comparison (.placeholder (.ref "user.level")) "equals"
      (.literal (.str "gold"))
    let known : Condition := .check "exists" (.placeholder (.ref "user.level"))
    let nested : Condition := .group "and" [.group "or" [gold], .group "and" [known, gold]]
    let flat : Condition := .group "and" [gold, known]
    Relation.EqvGen Condition.Regroups nested flat ∧
      (nested.evaluate goldUser).value = (flat.evaluate goldUser).value ∧
      ((Condition.group "or" [nested]).Succeeds goldUser ↔ flat.Succeeds goldUser) := by
  intro gold known nested flat
  have hunwrap : Condition.Regroups nested (.group "and" [gold, .group "and" [known, gold]]) :=
    .inside "and" [] [.group "and" [known, gold]] (.unwrap .or gold)
  have hsplice : Condition.Regroups (.group "and" [gold, .group "and" [known, gold]])
      (.group "and" [gold, known, gold]) := .splice .and [gold] [known, gold] []
  have hdrop : Condition.Regroups (.group "and" [gold, known, gold]) (.group "and" [known, gold]) :=
    @Condition.Regroups.drop .and [] [known, gold] gold
      (List.mem_cons_of_mem known List.mem_cons_self)
  have hpermute : Condition.Regroups (.group "and" [known, gold]) flat :=
    .permute .and (List.Perm.swap gold known [])
  have hflat : Relation.EqvGen Condition.Regroups nested flat :=
    ((Relation.EqvGen.rel _ _ hunwrap).trans _ _ _ (.rel _ _ hsplice)).trans _ _ _
      ((Relation.EqvGen.rel _ _ hdrop).trans _ _ _ (.rel _ _ hpermute))
  have hroot : Relation.EqvGen Condition.Regroups (.group "or" [nested]) flat :=
    (Relation.EqvGen.rel _ _ (.unwrap .or nested)).trans _ _ _ hflat
  exact ⟨hflat, (same_outcome_of_regrouped hflat goldUser).2 "and" _ _ rfl rfl,
    (same_outcome_of_regrouped hroot goldUser).1⟩

end Rulebook
