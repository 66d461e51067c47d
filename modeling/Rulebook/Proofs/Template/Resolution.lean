import Rulebook.Proofs.Condition.Footprint
import Rulebook.Proofs.Conversion.Registry

/-!
# How a placeholder is resolved

**Theorem (`resolve_converts_inside_out`).** Resolving a placeholder looks its path up, once, and
then converts what was found by each of the functions that it names, from the innermost to the
outermost. Each is what its name stands for after all registrations, and each is given whatever the
one before it gave, be that `null` or nothing. So a call of a function that nothing stands for may
be put around any part of a placeholder, and names that it does not call may be registered.

The conversions that are made, in order, are a *chain* of names and conversions. It is the same list
that gives the value, by a fold over it, and the requests for conversions, each with its input.
-/

namespace Rulebook

variable {lookup : String → Option Value} {judge : Judge} {r : Registry}

/-! ## Chains of conversions -/

/-- What a chain of conversions makes of a value. -/
def convertAll (chain : List (String × Conversion)) (v : Option Value) : Option Value :=
  chain.foldl (fun v c => c.2 v) v

/-- The conversions that a chain asks for, each of what the one before it gave. -/
def convertEvents : List (String × Conversion) → Option Value → List Event
  | [], _ => []
  | (name, f) :: chain, v => .convert name v :: convertEvents chain (f v)

theorem convertEvents_concat (chain : List (String × Conversion)) (name : String) (f : Conversion)
    (v : Option Value) :
    convertEvents (chain ++ [(name, f)]) v =
      convertEvents chain v ++ [.convert name (convertAll chain v)] := by
  induction chain generalizing v with
  | nil => rfl
  | cons c chain ih => exact congrArg (Event.convert c.1 v :: ·) (ih (c.2 v))

/-- The events but for the log lines. -/
def Run.actions {α : Type} (x : Run α) : List Event := x.trace.filter fun e => e.line?.isNone

theorem Run.actions_bind {α β : Type} (x : Run α) (f : α → Run β) :
    (x >>= f).actions = x.actions ++ (f x.value).actions := by
  rw [actions, Traced.trace_bind, List.filter_append, actions, actions]

theorem Context.actions_call (ctx : Context) (name : String) (v : Option Value) :
    (ctx.call name v).actions = [.convert name v] := by
  have hlines (x : Logged (Option Value)) : (Run.ofLogged x).actions = [] := by
    rw [Run.actions, List.filter_eq_nil_iff]
    intro e he
    obtain ⟨line, -, rfl⟩ := List.mem_map.1 he
    simp [Event.line?]
  rw [call, Run.actions_bind, hlines, List.append_nil]
  rfl

namespace Placeholder

/-- The conversions of a placeholder, in the order in which they are made. -/
def chain (r : Registry) (p : Placeholder) : List (String × Conversion) :=
  p.calls.reverse.map fun name => (name, r.meaning name)

theorem chain_call (name : String) (p : Placeholder) :
    (call name p).chain r = p.chain r ++ [(name, r.meaning name)] := by
  simp [chain, calls]

theorem value_resolve_call (name : String) (p : Placeholder) :
    ((call name p).resolve ⟨lookup, judge, r.convert⟩).value =
      r.meaning name (p.resolve ⟨lookup, judge, r.convert⟩).value := by
  rw [resolve, Traced.value_bind]
  exact r.value_convert name _

/-- **The value is converted from the inside out.** -/
theorem value_resolve (p : Placeholder) :
    (p.resolve ⟨lookup, judge, r.convert⟩).value = convertAll (p.chain r) (lookup p.path) := by
  induction p with
  | ref path => rfl
  | call name p ih =>
    rw [value_resolve_call, ih, chain_call, convertAll, convertAll, List.foldl_append]
    rfl

/-- **One look-up, and then the conversions in their order.** -/
theorem actions_resolve (p : Placeholder) :
    (p.resolve ⟨lookup, judge, r.convert⟩).actions =
      .lookup p.path :: convertEvents (p.chain r) (lookup p.path) := by
  induction p with
  | ref path => rfl
  | call name p ih =>
    rw [resolve, Run.actions_bind, ih, Context.actions_call, value_resolve, chain_call,
      convertEvents_concat]
    rfl

/-! ## What makes no difference -/

/-- The second placeholder is the first with a call of a function put around one of its parts. -/
inductive Wraps (name : String) : Placeholder → Placeholder → Prop
  | here (p : Placeholder) : Wraps name p (.call name p)
  | inside {p q : Placeholder} (outer : String) (h : Wraps name p q) :
      Wraps name (.call outer p) (.call outer q)

/-- A function that nothing stands for may be called anywhere. -/
theorem Wraps.value_resolve {name : String} {p q : Placeholder} (h : Wraps name p q)
    (hname : r.find? name = none) :
    (q.resolve ⟨lookup, judge, r.convert⟩).value =
      (p.resolve ⟨lookup, judge, r.convert⟩).value := by
  induction h with
  | here p =>
    rw [value_resolve_call, Registry.meaning, hname]
    rfl
  | inside outer _ ih => rw [value_resolve_call, value_resolve_call, ih]

/-- Only the names that are called matter. -/
theorem resolve_registry_congr {r r' : Registry} {p : Placeholder}
    (h : ∀ name ∈ p.calls, r.find? name = r'.find? name) :
    p.resolve ⟨lookup, judge, r.convert⟩ = p.resolve ⟨lookup, judge, r'.convert⟩ := by
  induction p with
  | ref path => rfl
  | call name p ih =>
    obtain ⟨hname, hrest⟩ := List.forall_mem_cons.1 h
    have hconvert : r.convert name = r'.convert name := by
      funext v
      rw [Registry.convert, hname, Registry.convert]
    rw [resolve, resolve, ih hrest]
    simp only [Context.call, hconvert]

end Placeholder

/-- **Resolving converts from the inside out.** The path of the placeholder is looked up, once, and
what is found is converted by what each name stands for, in the order from the innermost name to the
outermost, each conversion being asked for with what the one before it gave. A call of a name that
nothing stands for may be put around any part without changing the value, and registering names that
are not called, before or after others, changes nothing at all. -/
theorem resolve_converts_inside_out (lookup : String → Option Value) (judge : Judge)
    (registrations : List (String × Conversion)) (p : Placeholder) :
    let ctx : Context := ⟨lookup, judge, (Registry.builtin.registerAll registrations).convert⟩
    (∃ chain : List (String × Conversion), chain.map Prod.fst = p.calls.reverse ∧
        (∀ c ∈ chain, Registry.StandsFor registrations c.1 c.2) ∧
        (p.resolve ctx).actions = .lookup p.path :: convertEvents chain (lookup p.path) ∧
        (p.resolve ctx).value = convertAll chain (lookup p.path)) ∧
      (∀ name q, (∀ c ∈ registrations, c.1 ≠ name) →
        (∀ c ∈ Registry.builtin.entries, c.1 ≠ name) → p.Wraps name q →
        (q.resolve ctx).value = (p.resolve ctx).value) ∧
      ∀ before added after, registrations = before ++ after → (∀ c ∈ added, c.1 ∉ p.calls) →
        p.resolve ⟨lookup, judge,
          (Registry.builtin.registerAll (before ++ (added ++ after))).convert⟩ = p.resolve ctx := by
  intro ctx
  refine ⟨⟨p.chain _, ?_, ?_, p.actions_resolve, p.value_resolve⟩, ?_, ?_⟩
  · simp [Placeholder.chain, Function.comp_def]
  · intro c hc
    obtain ⟨name, -, rfl⟩ := List.mem_map.1 hc
    exact Registry.standsFor_iff.2 rfl
  · intro name q hnone hunknown hwraps
    exact hwraps.value_resolve (Registry.find?_registerAll_eq_none_iff.2 ⟨hnone, hunknown⟩)
  · rintro before added after rfl hadded
    refine Placeholder.resolve_registry_congr fun name hname => ?_
    have hlookup : added.reverse.lookup name = none := by
      refine Registry.lookup_eq_none_iff.2 fun c hc => ?_
      rintro rfl
      exact hadded c (List.mem_reverse.1 hc) hname
    simp only [Registry.find?_registerAll, List.reverse_append, List.lookup_append, hlookup,
      Option.or_none]

/-- `int` is registered twice, the second time to put an `x` in the place of nothing, and `note` is
not registered. -/
theorem resolve_converts_inside_out_registeredTwice :
    let orElse : Conversion := fun v => some (v.getD (.str "x"))
    let drop : Conversion := fun _ => none
    let judge : Judge := ⟨fun _ _ _ => pure .success, fun _ _ => pure .success⟩
    let ctx (registrations : List (String × Conversion)) : Context :=
      ⟨fun _ => some .null, judge, (Registry.builtin.registerAll registrations).convert⟩
    let registrations := [("int", drop), ("drop", drop), ("int", orElse)]
    let p : Placeholder := .call "int" (.call "drop" (.call "string" (.ref "a.b")))
    let q : Placeholder := .call "int" (.call "note" (.call "drop" (.call "string" (.ref "a.b"))))
    (p.resolve (ctx registrations)).value = some (.str "x") ∧
      (p.resolve (ctx registrations)).actions =
        [.lookup "a.b", .convert "string" (some .null), .convert "drop" (some (.str "null")),
          .convert "int" none] ∧
      (q.resolve (ctx registrations)).value = some (.str "x") ∧
      (p.resolve (ctx ([("int", drop)] ++ ([("note", drop)] ++
        [("drop", drop), ("int", orElse)])))).value = some (.str "x") := by
  intro orElse drop judge ctx registrations p q
  obtain ⟨-, hwraps, hadded⟩ :=
    resolve_converts_inside_out (fun _ => some .null) judge registrations p
  have hvalue : (p.resolve (ctx registrations)).value = some (.str "x") := rfl
  have hq : (q.resolve (ctx registrations)).value = (p.resolve (ctx registrations)).value :=
    hwraps "note" q (by simp [registrations]) (by simp [Registry.builtin])
      (.inside "int" (.here _))
  have hnote := hadded [("int", drop)] [("note", drop)] [("drop", drop), ("int", orElse)] rfl
    (by simp [p, Placeholder.calls])
  exact ⟨hvalue, rfl, hq.trans hvalue, (congrArg Traced.value hnote).trans hvalue⟩

end Rulebook
