import Rulebook.Proofs.Condition.Basic

/-!
# What an evaluation looks up

The paths of a condition are collected by a recursion of its own, which never evaluates anything.
Two statements tie it to evaluating.

* `evaluate_congr`: two ways of looking paths up that agree on the paths of a condition evaluate it
  in the same way, to the same outcome and with the same events in the same order.
* `paths_evaluate_sublist`: what is looked up, in order, is what is left of the paths of the terms
  once some of them are left out. Those left out stand in members that were not reached.

Neither depends on how values are judged and converted.
-/

namespace Rulebook

/-! ## The paths of a run -/

namespace Run

variable {α β : Type}

@[simp] theorem paths_pure (a : α) : (pure a : Run α).paths = [] := rfl

@[simp] theorem paths_bind (x : Run α) (f : α → Run β) :
    (x >>= f).paths = x.paths ++ (f x.value).paths :=
  List.filterMap_append ..

@[simp] theorem paths_map (f : α → β) (x : Run α) : (f <$> x).paths = x.paths := by
  rw [paths, Traced.trace_map, paths]

@[simp] theorem paths_tell_log (line : LogLine) :
    Run.paths (Traced.tell (.log line) : Run Unit) = [] := rfl

@[simp] theorem paths_ofLogged (x : Logged α) : (Run.ofLogged x).paths = [] := by
  show (x.trace.map Event.log).filterMap Event.path? = []
  rw [List.filterMap_map]
  exact List.filterMap_eq_nil_iff.2 fun _ _ => rfl

end Run

namespace Context

variable (ctx : Context)

@[simp] theorem paths_get (path : String) : (ctx.get path).paths = [path] := rfl

@[simp] theorem paths_call (name : String) (x : Option Value) : (ctx.call name x).paths = [] := by
  rw [call, Run.paths_bind, Run.paths_ofLogged]
  rfl

@[simp] theorem paths_compare (l : Value) (o : String) (r : Value) :
    (ctx.compare l o r).paths = [] := by
  rw [compare, Run.paths_bind, Run.paths_ofLogged]
  rfl

@[simp] theorem paths_check (o : String) (x : Option Value) : (ctx.check o x).paths = [] := by
  rw [check, Run.paths_bind, Run.paths_ofLogged]
  rfl

end Context

/-! ## Terms -/

section

variable {judge : Judge} {convert : String → Option Value → Logged (Option Value)}
  {f g : String → Option Value}

theorem Placeholder.resolve_congr {p : Placeholder} (h : f p.path = g p.path) :
    p.resolve ⟨f, judge, convert⟩ = p.resolve ⟨g, judge, convert⟩ := by
  induction p with
  | ref path =>
    show (⟨f path, [.lookup path]⟩ : Run (Option Value)) = ⟨g path, [.lookup path]⟩
    rw [show f path = g path from h]
  | call name argument ih =>
    rw [resolve, resolve, ih h]
    rfl

/-- A placeholder looks up its path, once. -/
theorem Placeholder.paths_resolve (ctx : Context) (p : Placeholder) :
    (p.resolve ctx).paths = [p.path] := by
  induction p with
  | ref path => rfl
  | call name argument ih => rw [resolve, Run.paths_bind, ih, Context.paths_call]; rfl

theorem Term.resolve_congr {t : Term} (h : ∀ p ∈ t.path?.toList, f p = g p) :
    t.resolve ⟨f, judge, convert⟩ = t.resolve ⟨g, judge, convert⟩ := by
  cases t with
  | literal v => rfl
  | empty => rfl
  | placeholder p => exact Placeholder.resolve_congr (h p.path (by simp [path?]))

theorem Term.paths_resolve (ctx : Context) (t : Term) :
    (t.resolve ctx).paths = t.path?.toList := by
  cases t with
  | literal v => rfl
  | empty => rfl
  | placeholder p => exact p.paths_resolve ctx

/-! ## Conditions -/

namespace Condition

theorem mem_membersPaths {members : List Condition} {path : String} :
    path ∈ membersPaths members ↔ ∃ m ∈ members, path ∈ m.termPaths := by
  induction members with
  | nil => simp [membersPaths]
  | cons m rest ih => simp [membersPaths, ih]

theorem allHold_congr {members : List Condition}
    (h : ∀ m ∈ members, m.evaluate ⟨f, judge, convert⟩ = m.evaluate ⟨g, judge, convert⟩) :
    allHold ⟨f, judge, convert⟩ members = allHold ⟨g, judge, convert⟩ members := by
  induction members with
  | nil => simp only [allHold]
  | cons m rest ih =>
    rw [List.forall_mem_cons] at h
    rw [allHold, allHold, h.1, ih h.2]

theorem anyHolds_congr {members : List Condition}
    (h : ∀ m ∈ members, m.evaluate ⟨f, judge, convert⟩ = m.evaluate ⟨g, judge, convert⟩) :
    anyHolds ⟨f, judge, convert⟩ members = anyHolds ⟨g, judge, convert⟩ members := by
  induction members with
  | nil => simp only [anyHolds]
  | cons m rest ih =>
    rw [List.forall_mem_cons] at h
    rw [anyHolds, anyHolds, h.1, ih h.2]

/-- **An evaluation depends on the paths of its condition only.** -/
theorem evaluate_congr {c : Condition} (h : ∀ p ∈ c.termPaths, f p = g p) :
    c.evaluate ⟨f, judge, convert⟩ = c.evaluate ⟨g, judge, convert⟩ := by
  induction c using Condition.induction with
  | comparison lhs o rhs =>
    rw [termPaths, List.forall_mem_append] at h
    rw [evaluate, evaluate, Term.resolve_congr h.1, Term.resolve_congr h.2]
    rfl
  | check o subject =>
    rw [termPaths] at h
    rw [evaluate, evaluate, Term.resolve_congr h]
    rfl
  | group k members ih =>
    rw [termPaths] at h
    have hm : ∀ m ∈ members, m.evaluate ⟨f, judge, convert⟩ = m.evaluate ⟨g, judge, convert⟩ :=
      fun m hm => ih m hm fun p hp => h p (mem_membersPaths.2 ⟨m, hm, hp⟩)
    rw [evaluate, evaluate, allHold_congr hm, anyHolds_congr hm]

end Condition

end

namespace Condition

variable {ctx : Context}

theorem paths_allHold_sublist {members : List Condition}
    (h : ∀ m ∈ members, (m.evaluate ctx).paths.Sublist m.termPaths) :
    (allHold ctx members).paths.Sublist (membersPaths members) := by
  induction members with
  | nil => rw [allHold, Run.paths_pure]; exact List.nil_sublist _
  | cons m rest ih =>
    rw [List.forall_mem_cons] at h
    rw [allHold, Run.paths_bind, membersPaths]
    refine h.1.append ?_
    split
    · exact ih h.2
    · rw [Run.paths_pure]; exact List.nil_sublist _

theorem paths_anyHolds_sublist {members : List Condition}
    (h : ∀ m ∈ members, (m.evaluate ctx).paths.Sublist m.termPaths) :
    (anyHolds ctx members).paths.Sublist (membersPaths members) := by
  induction members with
  | nil => rw [anyHolds, Run.paths_pure]; exact List.nil_sublist _
  | cons m rest ih =>
    rw [List.forall_mem_cons] at h
    rw [anyHolds, Run.paths_bind, membersPaths]
    refine h.1.append ?_
    split
    · rw [Run.paths_pure]; exact List.nil_sublist _
    · exact ih h.2

/-- A comparison looks up the paths of both its sides, whatever their values. -/
theorem paths_evaluate_comparison (lhs : Term) (o : String) (rhs : Term) :
    ((Condition.comparison lhs o rhs).evaluate ctx).paths = (comparison lhs o rhs).termPaths := by
  rw [evaluate, Run.paths_bind, Run.paths_bind, Term.paths_resolve, Term.paths_resolve, termPaths]
  split <;> simp

theorem paths_evaluate_check (o : String) (subject : Term) :
    ((Condition.check o subject).evaluate ctx).paths = (check o subject).termPaths := by
  rw [evaluate, Run.paths_bind, Term.paths_resolve, Context.paths_check, List.append_nil, termPaths]

/-- **An evaluation looks up paths of its condition only**, each as often and in the order in which
they stand there, save those it does not come to. -/
theorem paths_evaluate_sublist (c : Condition) :
    (c.evaluate ctx).paths.Sublist c.termPaths := by
  induction c using Condition.induction with
  | comparison lhs o rhs => exact paths_evaluate_comparison lhs o rhs ▸ List.Sublist.refl _
  | check o subject => exact paths_evaluate_check o subject ▸ List.Sublist.refl _
  | group k members ih =>
    rw [evaluate, termPaths]
    split
    · rw [bind_pure_comp, Run.paths_map]
      exact paths_allHold_sublist ih
    · rw [bind_pure_comp, Run.paths_map]
      exact paths_anyHolds_sublist ih
    · rw [Run.paths_pure]
      exact List.nil_sublist _

end Condition
end Rulebook
