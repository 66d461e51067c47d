import Rulebook.Comparison
import Rulebook.Conversion
import Rulebook.Proofs.Condition.Basic

/-!
# What an evaluation leaves out

A member decides a group if it settles the outcome on its own: by failing where all have to hold, by
succeeding where one is enough. The group is evaluated up to the first member that does, and what
comes after that member could be anything.

**Theorem (`skips_undecided_members`).** The events of a decided group are those of its members, one
after the other, up to the one that decides, and its outcome and its events are the same whatever
follows. A group with an unknown connective has no events at all. Every comparison that an
evaluation comes to resolves its left side and then its right one, even when the left one has no
value.

Evaluating one member more is a step of its own (`evaluate_cons_of_decides` and
`evaluate_cons_of_not_decides`). Both connectives take the same steps, as only the success that
decides is another; all else is an induction on the members before the one that decides.
-/

namespace Rulebook

/-- The success of a member that settles the outcome of its group. -/
def Connective.deciding : Connective → Bool
  | .and => false
  | .or => true

namespace Condition

variable {ctx : Context} {k : Connective} {m n : Condition} {before members rest : List Condition}

/-- The condition, as a member, settles the outcome of a group with this connective. -/
def Decides (ctx : Context) (k : Connective) (c : Condition) : Prop :=
  (c.evaluate ctx).value.isSuccess = k.deciding

instance (ctx : Context) (k : Connective) (c : Condition) : Decidable (c.Decides ctx k) :=
  inferInstanceAs (Decidable (_ = _))

/-- What happens when conditions are evaluated one after the other. -/
def eventsOf (ctx : Context) (members : List Condition) : List Event :=
  members.flatMap fun m => (m.evaluate ctx).trace

/-! ## One member more -/

theorem evaluate_and (members : List Condition) :
    (group Connective.and.name members).evaluate ctx =
      groupOutcome .and <$> allHold ctx members := by
  rw [evaluate, Connective.ofName?_name]
  rfl

theorem evaluate_or (members : List Condition) :
    (group Connective.or.name members).evaluate ctx =
      groupOutcome .or <$> anyHolds ctx members := by
  rw [evaluate, Connective.ofName?_name]
  rfl

/-- Where a member decides, its group is done. -/
theorem evaluate_cons_of_decides (h : m.Decides ctx k) (rest : List Condition) :
    (group k.name (m :: rest)).evaluate ctx =
      ⟨groupOutcome k k.deciding, (m.evaluate ctx).trace⟩ := by
  cases k with
  | and =>
    have hfails : (m.evaluate ctx).value.isSuccess = false := h
    rw [evaluate_and, allHold]
    ext1 <;> simp [hfails, Connective.deciding]
  | or =>
    have hholds : (m.evaluate ctx).value.isSuccess = true := h
    rw [evaluate_or, anyHolds]
    ext1 <;> simp [hholds, Connective.deciding]

/-- Where a member does not decide, its group goes on as the group of the others. -/
theorem evaluate_cons_of_not_decides (h : ¬ m.Decides ctx k) (rest : List Condition) :
    (group k.name (m :: rest)).evaluate ctx =
      ⟨((group k.name rest).evaluate ctx).value,
        (m.evaluate ctx).trace ++ ((group k.name rest).evaluate ctx).trace⟩ := by
  cases k with
  | and =>
    have hholds : (m.evaluate ctx).value.isSuccess = true := Bool.not_eq_false _ ▸ h
    rw [evaluate_and, evaluate_and, allHold]
    ext1 <;> simp [hholds]
  | or =>
    have hfails : (m.evaluate ctx).value.isSuccess = false := Bool.not_eq_true _ ▸ h
    rw [evaluate_or, evaluate_or, anyHolds]
    ext1 <;> simp [hfails]

/-! ## The members before the one that decides -/

theorem evaluate_append_of_not_decides (h : ∀ b ∈ before, ¬ b.Decides ctx k)
    (rest : List Condition) :
    (group k.name (before ++ rest)).evaluate ctx =
      ⟨((group k.name rest).evaluate ctx).value,
        eventsOf ctx before ++ ((group k.name rest).evaluate ctx).trace⟩ := by
  induction before with
  | nil => rfl
  | cons b before ih =>
    obtain ⟨hb, hbefore⟩ := List.forall_mem_cons.1 h
    rw [List.cons_append, evaluate_cons_of_not_decides hb, ih hbefore]
    simp [eventsOf]

/-- **A decided group** has the outcome and the events of its members up to the one that decides. -/
theorem evaluate_of_decided (hbefore : ∀ b ∈ before, ¬ b.Decides ctx k) (hm : m.Decides ctx k)
    (rest : List Condition) :
    (group k.name (before ++ m :: rest)).evaluate ctx =
      ⟨groupOutcome k k.deciding, eventsOf ctx (before ++ [m])⟩ := by
  rw [evaluate_append_of_not_decides hbefore, evaluate_cons_of_decides hm]
  simp [eventsOf]

/-- A member is evaluated if none before it decides. -/
theorem trace_member_within (hbefore : ∀ b ∈ before, ¬ b.Decides ctx k) :
    (m.evaluate ctx).trace <:+: ((group k.name (before ++ m :: rest)).evaluate ctx).trace := by
  rw [evaluate_append_of_not_decides hbefore]
  by_cases hm : m.Decides ctx k
  · rw [evaluate_cons_of_decides hm]
    exact (List.suffix_append _ _).isInfix
  · rw [evaluate_cons_of_not_decides hm]
    exact List.infix_append' _ _ _

/-! ## The conditions that an evaluation comes to -/

/-- Evaluating the first condition comes to the second: it is the condition itself, or stands in a
member that no member before it makes superfluous. -/
inductive ComesTo (ctx : Context) : Condition → Condition → Prop
  | root (c : Condition) : ComesTo ctx c c
  | member {connective : String} {k : Connective} {before rest : List Condition} {m n : Condition}
      (hk : Connective.ofName? connective = some k) (hbefore : ∀ b ∈ before, ¬ b.Decides ctx k)
      (h : ComesTo ctx m n) : ComesTo ctx (.group connective (before ++ m :: rest)) n

theorem ComesTo.trace_within {c n : Condition} (h : c.ComesTo ctx n) :
    (n.evaluate ctx).trace <:+: (c.evaluate ctx).trace := by
  induction h with
  | root => exact List.infix_refl _
  | member hk hbefore _ ih =>
    rw [Connective.eq_name_of_ofName? hk]
    exact ih.trans (trace_member_within hbefore)

/-- What happens when a comparison is judged, which it is if both sides have values. -/
def judging (ctx : Context) (lhs : Term) (operator : String) (rhs : Term) : List Event :=
  match (lhs.resolve ctx).value, (rhs.resolve ctx).value with
  | some l, some r => (ctx.compare l operator r).trace
  | _, _ => []

/-- Both sides of a comparison are resolved, the left one first, before it is judged. -/
theorem trace_comparison (lhs : Term) (operator : String) (rhs : Term) :
    ((comparison lhs operator rhs).evaluate ctx).trace =
      (lhs.resolve ctx).trace ++ ((rhs.resolve ctx).trace ++ judging ctx lhs operator rhs) := by
  rw [evaluate, Traced.trace_bind, Traced.trace_bind, judging]
  cases (lhs.resolve ctx).value with
  | none => rfl
  | some l => cases (rhs.resolve ctx).value <;> rfl

end Condition

/-- **Undecided members are skipped.** If `m` is the first member to decide a group with a known
connective, then the group is evaluated up to `m`, to the events of these members one after the
other, whatever the rest is. A group with an unknown connective fails whatever its members are, and
evaluates none of them. A comparison resolves both sides, the left one first, and is judged if both
have values; what happens when it is evaluated happens wherever an evaluation comes to it. -/
theorem skips_undecided_members (ctx : Context) :
    (∀ (connective : String) (k : Connective), Connective.ofName? connective = some k →
        ∀ (before : List Condition) (m : Condition), (∀ b ∈ before, ¬ b.Decides ctx k) →
          m.Decides ctx k → ∀ rest : List Condition,
            (Condition.group connective (before ++ m :: rest)).evaluate ctx =
              ⟨Condition.groupOutcome k k.deciding,
                (before ++ [m]).flatMap fun c => (c.evaluate ctx).trace⟩) ∧
      (∀ connective : String, Connective.ofName? connective = none →
        ∀ members : List Condition, (Condition.group connective members).evaluate ctx =
          ⟨.failure .missingOperator s!"Unknown conjunction operator {connective}", []⟩) ∧
      (∀ (lhs : Term) (operator : String) (rhs : Term),
        ((Condition.comparison lhs operator rhs).evaluate ctx).trace =
          (lhs.resolve ctx).trace ++
            ((rhs.resolve ctx).trace ++ Condition.judging ctx lhs operator rhs)) ∧
      ∀ c n : Condition, c.ComesTo ctx n → (n.evaluate ctx).trace <:+: (c.evaluate ctx).trace := by
  refine ⟨fun connective k hk before m hbefore hm rest => ?_, fun connective hk members => ?_,
    Condition.trace_comparison, fun c n => Condition.ComesTo.trace_within⟩
  · rw [Connective.eq_name_of_ofName? hk]
    exact Condition.evaluate_of_decided hbefore hm rest
  · rw [Condition.evaluate, hk]
    rfl

/-- A context that knows the level of a user and nothing else. -/
def goldUser : Context where
  lookup path := if path = "user.level" then some (.str "gold") else none
  judge := .standard .exact
  convert := Registry.builtin.convert

/-- A disjunction that its second member decides, and a conjunction that comes to a comparison the
left side of which has no value. -/
theorem skips_undecided_members_goldUser :
    let level : Term := .placeholder (.ref "user.level")
    let silver : Condition := .comparison level "equals" (.literal (.str "silver"))
    let known : Condition := .check "exists" level
    let nameless : Condition := .comparison (.placeholder (.ref "user.name")) "~" level
    (Condition.group "or" [silver, known, nameless, .group "xor" [known]]).evaluate goldUser =
        ⟨.success, [.lookup "user.level", .compare (.str "gold") "equals" (.str "silver"),
          .lookup "user.level", .check "exists" (some (.str "gold"))]⟩ ∧
      (Condition.group "xor" [known]).evaluate goldUser =
        ⟨.failure .missingOperator "Unknown conjunction operator xor", []⟩ ∧
      [Event.lookup "user.name", .lookup "user.level"] <:+:
        ((Condition.group "and" [known, nameless]).evaluate goldUser).trace := by
  intro level silver known nameless
  obtain ⟨hdecided, hunknown, htrace, hcomesTo⟩ := skips_undecided_members goldUser
  refine ⟨?_, ?_, ?_⟩
  · exact (hdecided "or" .or (by decide) [silver] known (by decide) (by decide) _).trans rfl
  · exact (hunknown "xor" (by decide) [known]).trans rfl
  · have hnode : (Condition.group "and" [known, nameless]).ComesTo goldUser nameless :=
      @Condition.ComesTo.member goldUser "and" .and [known] [] nameless nameless (by decide)
        (by decide) (.root nameless)
    have hwithin := hcomesTo _ _ hnode
    rwa [htrace] at hwithin

end Rulebook
