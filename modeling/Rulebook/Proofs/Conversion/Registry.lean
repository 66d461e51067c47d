import Rulebook.Conversion

/-!
# What a name stands for

A registry starts with the conversions that are built in, and others are registered one after the
other. `Registry.StandsFor` says which conversion a name stands for then: the one registered last
under it, else the one built in, else the one that leaves every value as it is. This is what a
registry converts by (`standsFor_iff`).
-/

namespace Rulebook.Registry

variable {r : Registry} {registrations : List (String × Conversion)} {name : String}

/-- Registers conversions under their names, one after the other. -/
def registerAll (r : Registry) (registrations : List (String × Conversion)) : Registry :=
  registrations.foldl (fun r c => r.register c.1 c.2) r

/-- The conversion that a name stands for after some registrations. -/
inductive StandsFor (registrations : List (String × Conversion)) (name : String) :
    Conversion → Prop
  | registered {before after : List (String × Conversion)} {f : Conversion}
      (hlast : ∀ c ∈ after, c.1 ≠ name) (h : registrations = before ++ (name, f) :: after) :
      StandsFor registrations name f
  | builtin {f : Conversion} (hnone : ∀ c ∈ registrations, c.1 ≠ name)
      (h : (name, f) ∈ builtin.entries) : StandsFor registrations name f
  | unknown (hnone : ∀ c ∈ registrations, c.1 ≠ name) (h : ∀ c ∈ builtin.entries, c.1 ≠ name) :
      StandsFor registrations name id

/-- The conversion that a registry converts by. -/
def meaning (r : Registry) (name : String) : Conversion := (r.find? name).getD id

theorem value_convert (r : Registry) (name : String) (v : Option Value) :
    (r.convert name v).value = r.meaning name v := by
  unfold convert meaning
  cases r.find? name <;> rfl

/-- Whatever is registered comes before what was, the last first. -/
theorem entries_registerAll (r : Registry) (registrations : List (String × Conversion)) :
    (r.registerAll registrations).entries = registrations.reverse ++ r.entries := by
  induction registrations generalizing r with
  | nil => rfl
  | cons c rest ih =>
    rw [registerAll, List.foldl_cons]
    exact (ih (r.register c.1 c.2)).trans (by simp [register])

theorem find?_registerAll (r : Registry) (registrations : List (String × Conversion))
    (name : String) :
    (r.registerAll registrations).find? name =
      (registrations.reverse.lookup name).or (r.find? name) := by
  rw [find?, entries_registerAll, List.lookup_append, find?]

theorem lookup_eq_none_iff {entries : List (String × Conversion)} :
    entries.lookup name = none ↔ ∀ c ∈ entries, c.1 ≠ name := by
  rw [List.lookup_eq_none_iff]
  exact forall₂_congr fun c _ => bne_iff_ne.trans ne_comm

theorem find?_registerAll_of_ne (hnone : ∀ c ∈ registrations, c.1 ≠ name) :
    (r.registerAll registrations).find? name = r.find? name := by
  rw [find?_registerAll, lookup_eq_none_iff.2 fun c hc => hnone c (List.mem_reverse.1 hc),
    Option.none_or]

theorem find?_registerAll_eq_none_iff :
    (r.registerAll registrations).find? name = none ↔
      (∀ c ∈ registrations, c.1 ≠ name) ∧ ∀ c ∈ r.entries, c.1 ≠ name := by
  rw [find?_registerAll, Option.or_eq_none_iff, lookup_eq_none_iff, find?, lookup_eq_none_iff]
  simp only [List.mem_reverse]

/-- Each of the conversions built in has a name of its own. -/
theorem find?_builtin_eq_some_iff {f : Conversion} :
    builtin.find? name = some f ↔ (name, f) ∈ builtin.entries := by
  constructor
  · intro h
    obtain ⟨before, after, hentries, -⟩ := List.lookup_eq_some_iff.1 h
    simp [hentries]
  · intro h
    simp only [builtin, List.mem_cons, Prod.mk.injEq, List.not_mem_nil, or_false] at h
    rcases h with ⟨rfl, rfl⟩ | ⟨rfl, rfl⟩ | ⟨rfl, rfl⟩ | ⟨rfl, rfl⟩ | ⟨rfl, rfl⟩ <;> rfl

/-- **A registry converts by what the name stands for.** -/
theorem standsFor_iff {f : Conversion} :
    StandsFor registrations name f ↔ (builtin.registerAll registrations).meaning name = f := by
  unfold meaning
  constructor
  · intro h
    cases h with
    | @registered before after f hlast h =>
      have hlookup : registrations.reverse.lookup name = some f := by
        rw [h, List.reverse_append, List.reverse_cons, List.append_assoc, List.lookup_append,
          lookup_eq_none_iff.2 fun c hc => hlast c (List.mem_reverse.1 hc)]
        simp
      rw [find?_registerAll, hlookup]
      rfl
    | builtin hnone h =>
      rw [find?_registerAll_of_ne hnone, find?_builtin_eq_some_iff.2 h]
      rfl
    | unknown hnone h =>
      rw [find?_registerAll_eq_none_iff.2 ⟨hnone, h⟩]
      rfl
  · rintro rfl
    cases hfind : (builtin.registerAll registrations).find? name with
    | none =>
      obtain ⟨hnone, hunknown⟩ := find?_registerAll_eq_none_iff.1 hfind
      exact .unknown hnone hunknown
    | some f =>
      rw [find?_registerAll] at hfind
      rcases Option.or_eq_some_iff.1 hfind with hfind | ⟨hnone, hfind⟩
      · obtain ⟨after, before, hreverse, hlast⟩ := List.lookup_eq_some_iff.1 hfind
        have hentries : registrations = before.reverse ++ (name, f) :: after.reverse := by
          rw [← List.reverse_reverse registrations, hreverse]
          simp
        refine .registered (fun c hc => ?_) hentries
        exact (bne_iff_ne.1 (hlast c (List.mem_reverse.1 hc))).symm
      · rw [lookup_eq_none_iff] at hnone
        exact .builtin (fun c hc => hnone c (List.mem_reverse.2 hc))
          (find?_builtin_eq_some_iff.1 hfind)

end Rulebook.Registry
