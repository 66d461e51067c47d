import Mathlib.Data.List.Forall2
import Rulebook.Compile
import Rulebook.Proofs.Definition.Node

/-!
# What compiling a definition comes to

A definition compiles only as a group all conditions of which compile, or as a matcher that
compiles (`compile_eq_ok`), and a matcher compiles to one of three forms of conditions
(`MatcherDefinition.compile_eq_ok`). A list of conditions is refused for the fault of the first
that does not compile (`compileMembers_eq_error`). Whatever else is said of compiled conditions
rests on these and does not look into the compiler again.

The place at which a definition is compiled only goes before the places of its faults
(`Outline.compile_append`), so that all of this speaks of compiling at the root.
-/

namespace Rulebook

/-- The fault as it is reported from further up. -/
def LocatedFault.under (above : List Nat) (f : LocatedFault) : LocatedFault :=
  ⟨above ++ f.path, f.fault⟩

theorem LocatedFault.mapError_under_mk {α : Type} (above path : List Nat)
    (x : Except ConditionFault α) :
    x.mapError (LocatedFault.mk (above ++ path)) =
      (x.mapError (LocatedFault.mk path)).mapError (LocatedFault.under above) := by
  cases x <;> rfl

namespace Outline

mutual

/-- The place of an outline goes before the places of its faults. -/
theorem compile_append (above path : List Nat) (o : Outline) :
    o.compile (above ++ path) = (o.compile path).mapError (LocatedFault.under above) := by
  cases o with
  | unsupported kind => rfl
  | malformed e => rfl
  | matcher m => exact LocatedFault.mapError_under_mk above path m.compile
  | group logic members =>
    simp only [compile]
    split
    · rfl
    · split
      · rfl
      · rw [compileMembers_append]
        cases compileMembers path 0 members <;> rfl

theorem compileMembers_append (above path : List Nat) (i : Nat) (members : List Outline) :
    compileMembers (above ++ path) i members =
      (compileMembers path i members).mapError (LocatedFault.under above) := by
  cases members with
  | nil => rfl
  | cons o rest =>
    simp only [compileMembers, List.append_assoc]
    rw [compile_append above (path ++ [i]) o, compileMembers_append above path (i + 1) rest]
    cases o.compile (path ++ [i]) with
    | error f => rfl
    | ok c => cases compileMembers path (i + 1) rest <;> rfl

end

end Outline

/-! ## Lists of conditions -/

theorem exists_mem_of_forall₂ {α β : Type} {R : α → β → Prop} {as : List α} {bs : List β}
    (h : List.Forall₂ R as bs) : ∀ a ∈ as, ∃ b ∈ bs, R a b := by
  induction h with
  | nil => simp
  | cons hab _ ih =>
    refine List.forall_mem_cons.2 ⟨⟨_, List.mem_cons_self, hab⟩, fun a ha => ?_⟩
    obtain ⟨b, hb, hR⟩ := ih a ha
    exact ⟨b, List.mem_cons_of_mem _ hb, hR⟩

/-- What follows for the elements of the first list follows along both lists. -/
theorem forall₂_imp_of_mem {α β : Type} {R S : α → β → Prop} {as : List α} {bs : List β}
    (h : List.Forall₂ R as bs) (himp : ∀ a ∈ as, ∀ b, R a b → S a b) : List.Forall₂ S as bs := by
  induction h with
  | nil => exact .nil
  | cons hab _ ih =>
    obtain ⟨ha, has⟩ := List.forall_mem_cons.1 himp
    exact .cons (ha _ hab) (ih has)

theorem forall_mem_iff_of_forall₂ {α β : Type} {p : α → Prop} {q : β → Prop} {as : List α}
    {bs : List β} (h : List.Forall₂ (fun a b => q b ↔ p a) as bs) :
    (∀ b ∈ bs, q b) ↔ ∀ a ∈ as, p a := by
  induction h with
  | nil => simp
  | cons hab _ ih => rw [List.forall_mem_cons, List.forall_mem_cons, hab, ih]

theorem exists_mem_iff_of_forall₂ {α β : Type} {p : α → Prop} {q : β → Prop} {as : List α}
    {bs : List β} (h : List.Forall₂ (fun a b => q b ↔ p a) as bs) :
    (∃ b ∈ bs, q b) ↔ ∃ a ∈ as, p a := by
  induction h with
  | nil => simp
  | cons hab _ ih => simp [hab, ih]

namespace ConditionDefinition

/-- A condition in a group is compiled as at the root, and its faults are put under its position. -/
theorem compile_ofDefinition (i : Nat) (d : ConditionDefinition) :
    (Outline.ofDefinition d).compile ([] ++ [i]) =
      d.compile.mapError (LocatedFault.under [i]) := by
  rw [List.nil_append]
  exact Outline.compile_append [i] [] (Outline.ofDefinition d)

theorem compileMembers_eq_ok {i : Nat} {ds : List ConditionDefinition} {cs : List Condition}
    (h : Outline.compileMembers [] i (ds.map Outline.ofDefinition) = .ok cs) :
    List.Forall₂ (fun d c => d.compile = .ok c) ds cs := by
  induction ds generalizing i cs with
  | nil =>
    cases h
    exact .nil
  | cons d rest ih =>
    simp only [List.map_cons, Outline.compileMembers, compile_ofDefinition] at h
    cases hd : d.compile with
    | error f => rw [hd] at h; cases h
    | ok c =>
      rw [hd] at h
      cases hr : Outline.compileMembers [] (i + 1) (rest.map Outline.ofDefinition) with
      | error f => rw [hr] at h; cases h
      | ok cs' =>
        rw [hr] at h
        cases h
        exact .cons hd (ih hr)

/-- The fault of a list of conditions is that of the first one that does not compile. -/
theorem compileMembers_eq_error {i : Nat} {ds : List ConditionDefinition} {f : LocatedFault}
    (h : Outline.compileMembers [] i (ds.map Outline.ofDefinition) = .error f) :
    ∃ before d after f', ds = before ++ d :: after ∧ (∀ b ∈ before, ∃ c, b.compile = .ok c) ∧
      d.compile = .error f' ∧ f = f'.under [i + before.length] := by
  induction ds generalizing i with
  | nil => cases h
  | cons d rest ih =>
    simp only [List.map_cons, Outline.compileMembers, compile_ofDefinition] at h
    cases hd : d.compile with
    | error f' =>
      rw [hd] at h
      cases h
      exact ⟨[], d, rest, f', rfl, fun b hb => absurd hb List.not_mem_nil, hd, rfl⟩
    | ok c =>
      rw [hd] at h
      cases hr : Outline.compileMembers [] (i + 1) (rest.map Outline.ofDefinition) with
      | ok cs => rw [hr] at h; cases h
      | error f₁ =>
        rw [hr] at h
        cases h
        obtain ⟨before, n, after, f', rfl, hb, hn, rfl⟩ := ih hr
        refine ⟨d :: before, n, after, f', rfl, fun b hmem => ?_, hn, ?_⟩
        · rcases List.mem_cons.1 hmem with rfl | hmem
          · exact ⟨c, hd⟩
          · exact hb b hmem
        · rw [List.length_cons, Nat.add_comm before.length 1, ← Nat.add_assoc]

/-! ## What a definition reads as -/

theorem ofDefinition_isGroup {d : ConditionDefinition} {g : GroupDefinition} (h : d.IsGroup g) :
    Outline.ofDefinition d = .group g.logic (g.conditions.map Outline.ofDefinition) :=
  Outline.ofDefinition_group h.1 h.2

theorem ofDefinition_isMatcher {d : ConditionDefinition} {m : MatcherDefinition}
    (h : d.IsMatcher m) : Outline.ofDefinition d = .matcher m := by
  have hg : d.kind ≠ groupKind := fun hg => absurd (h.1.symm.trans hg) (by decide)
  have hm : d.kind = matcherKind := h.1
  rw [Outline.ofDefinition, if_neg hg, if_pos hm, h.2]

theorem ofDefinition_isMalformed {d : ConditionDefinition} {e : Json.ShapeError}
    (h : d.IsMalformed e) : Outline.ofDefinition d = .malformed e := by
  rcases h with ⟨hg, he⟩ | ⟨hm, he⟩
  · replace hg : d.kind = groupKind := hg
    rw [Outline.ofDefinition, if_pos hg]
    split
    · next e' he' => rw [he] at he'; cases he'; rfl
    · next g he' => rw [he] at he'; cases he'
  · have hg : d.kind ≠ groupKind := fun hg => absurd (hm.symm.trans hg) (by decide)
    replace hm : d.kind = matcherKind := hm
    rw [Outline.ofDefinition, if_neg hg, if_pos hm, he]

theorem ofDefinition_unsupported {d : ConditionDefinition} (hg : d.kind ≠ "group")
    (hm : d.kind ≠ "matcher") : Outline.ofDefinition d = .unsupported d.kind := by
  replace hg : d.kind ≠ groupKind := hg
  replace hm : d.kind ≠ matcherKind := hm
  rw [Outline.ofDefinition, if_neg hg, if_neg hm]

theorem isGroup_or_isMatcher_or (d : ConditionDefinition) :
    (∃ g, d.IsGroup g) ∨ (∃ m, d.IsMatcher m) ∨ (∃ e, d.IsMalformed e) ∨
      (d.kind ≠ "group" ∧ d.kind ≠ "matcher") := by
  by_cases hg : d.kind = "group"
  · cases hb : GroupDefinition.ofValue d.body with
    | ok g => exact .inl ⟨g, hg, hb⟩
    | error e => exact .inr (.inr (.inl ⟨e, .inl ⟨hg, hb⟩⟩))
  · by_cases hm : d.kind = "matcher"
    · cases hb : MatcherDefinition.ofValue d.body with
      | ok m => exact .inr (.inl ⟨m, hm, hb⟩)
      | error e => exact .inr (.inr (.inl ⟨e, .inr ⟨hm, hb⟩⟩))
    · exact .inr (.inr (.inr ⟨hg, hm⟩))

/-! ## What compiles -/

/-- **What compiles.** A group with a known connective all conditions of which compile, being at
least one, or a matcher that compiles. -/
theorem compile_eq_ok {d : ConditionDefinition} {c : Condition} (h : d.compile = .ok c) :
    (∃ g cs, ∃ k : Connective, d.IsGroup g ∧ g.logic = k.name ∧ g.conditions ≠ [] ∧
        List.Forall₂ (fun d c => d.compile = .ok c) g.conditions cs ∧ c = .group k.name cs) ∨
      ∃ m, d.IsMatcher m ∧ m.compile = .ok c := by
  unfold compile at h
  rcases isGroup_or_isMatcher_or d with ⟨g, hg⟩ | ⟨m, hm⟩ | ⟨e, he⟩ | ⟨hg, hm⟩
  · left
    rw [ofDefinition_isGroup hg] at h
    simp only [Outline.compile] at h
    split at h
    · cases h
    · next k hk =>
      split at h
      · cases h
      · next hne =>
        cases hcs : Outline.compileMembers [] 0 (g.conditions.map Outline.ofDefinition) with
        | error f => rw [hcs] at h; cases h
        | ok cs =>
          rw [hcs] at h
          cases h
          refine ⟨g, cs, k, hg, Connective.eq_name_of_ofName? hk, ?_, compileMembers_eq_ok hcs, rfl⟩
          simpa using hne
  · right
    rw [ofDefinition_isMatcher hm] at h
    refine ⟨m, hm, ?_⟩
    cases hc : m.compile with
    | error f => rw [Outline.compile, hc] at h; cases h
    | ok c' => rw [Outline.compile, hc] at h; cases h; rfl
  · rw [ofDefinition_isMalformed he] at h; cases h
  · rw [ofDefinition_unsupported hg hm] at h; cases h

end ConditionDefinition

/-! ## Matchers -/

/-- The matchers that compare, with the names of their operators. -/
def comparingMatchers : List (String × String) :=
  [("eq", "equals"), ("ne", "notEquals"), ("gt", "greaterThan"), ("ge", "greaterThanOrEquals"),
    ("lt", "lessThan"), ("le", "lessThanOrEquals"), ("co", "contains"), ("nc", "notContains"),
    ("sw", "startsWith"), ("ew", "endsWith")]

/-- A matcher compares by the operator of the table, or is one of the two that check. -/
theorem matcherOperator?_cases {s : String} {o : Operator} (h : matcherOperator? s = some o) :
    (o.isUnary = false ∧ s ≠ "ex" ∧ s ≠ "nx" ∧
        ∀ name, (s, name) ∈ comparingMatchers ↔ name = o.name) ∨
      (s = "ex" ∧ o = .exists) ∨ (s = "nx" ∧ o = .notExists) := by
  unfold matcherOperator? at h
  split at h <;> cases h
  case h_11 => exact .inr (.inl ⟨rfl, rfl⟩)
  case h_12 => exact .inr (.inr ⟨rfl, rfl⟩)
  all_goals exact .inl ⟨rfl, by decide, by decide, fun name => by
    simp [comparingMatchers, Operator.name]⟩

namespace MatcherDefinition

/-- The term that a matcher's key becomes. -/
def keyTerm (m : MatcherDefinition) : Term := .placeholder (.parse m.key)

/-- **What a matcher compiles to.** A check of its key, a comparison of its key with its only
value, or several comparisons of which some must hold. -/
theorem compile_eq_ok {m : MatcherDefinition} {c : Condition} (h : m.compile = .ok c) :
    ∃ o, matcherOperator? m.matcher = some o ∧ m.key ≠ "" ∧
      ((o.isUnary = true ∧ c = .check o.name m.keyTerm) ∨
        (o.isUnary = false ∧ ∃ v, m.values = [v] ∧ c = .comparison m.keyTerm o.name (.literal v)) ∨
        (o.isUnary = false ∧ m.values ≠ [] ∧
          c = .any (m.values.map fun v => .comparison m.keyTerm o.name (.literal v)))) := by
  unfold compile at h
  split at h
  · cases h
  · next hkey =>
    split at h
    · cases h
    · next o ho =>
      refine ⟨o, ho, hkey, ?_⟩
      simp only [condition] at h
      split at h
      · next hu => cases h; exact .inl ⟨hu, rfl⟩
      · next hu =>
        have hu : o.isUnary = false := by simpa using hu
        split at h
        · cases h
        · next v hv => cases h; exact .inr (.inl ⟨hu, v, hv, rfl⟩)
        · next hne _ => cases h; exact .inr (.inr ⟨hu, hne, rfl⟩)

end MatcherDefinition
end Rulebook
