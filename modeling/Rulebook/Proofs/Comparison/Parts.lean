import Rulebook.Proofs.Comparison.Equality

/-!
# The order of strings by their parts

A string may start with another, end with it or contain it. Each of these is an order of the strings
by their parts. In a mode it is one of what the mode makes of the texts, and so fits together with
equality in this mode: it holds both ways exactly between strings that are equal there.

**Theorem (`strings_partOrder`).** In either mode the three operators are such orders, the first two
within the third. Between values that are not both strings all three are rejected, and the negation
of the third as well, while equality is still decided.

What is part of a text is a sublist of it. Hence texts that are part of each other are the same,
whichever parts are meant.
-/

namespace Rulebook

/-- The relation orders the strings by their parts: equal are those that are part of each other, and
the empty string is part of all. -/
structure PartOrder (equal hasPart : String → String → Prop) : Prop where
  refl : ∀ a, hasPart a a
  trans : ∀ a b c, hasPart a b → hasPart b c → hasPart a c
  equal_iff : ∀ a b, equal a b ↔ hasPart a b ∧ hasPart b a
  empty : ∀ a, hasPart a ""

/-- Both values are strings. -/
def Value.AreStrings (l r : Value) : Prop := ∃ s t, l = .str s ∧ r = .str t

namespace CaseMode

/-- The operator is accepted between two strings. -/
def Relates (mode : CaseMode) (operator : String) (a b : String) : Prop :=
  mode.Accepts (.str a) operator (.str b)

instance (mode : CaseMode) (operator a b : String) : Decidable (mode.Relates operator a b) :=
  inferInstanceAs (Decidable (mode.Accepts _ _ _))

variable {mode : CaseMode} {a b : String} {l r : Value}

theorem relates_equals : mode.Relates "equals" a b ↔ mode.fold a = mode.fold b := by
  rw [Relates, accepts_equals, Value.equals, beq_iff_eq]

theorem relates_startsWith : mode.Relates "startsWith" a b ↔ mode.fold b <+: mode.fold a := by
  simp [Relates, accepts_startsWith]

theorem relates_endsWith : mode.Relates "endsWith" a b ↔ mode.fold b <:+ mode.fold a := by
  simp [Relates, accepts_endsWith]

theorem relates_contains : mode.Relates "contains" a b ↔ mode.fold b <:+: mode.fold a := by
  simp [Relates, accepts_contains]

theorem fold_empty (mode : CaseMode) : mode.fold "" = [] := by
  cases mode <;> decide

/-- An order of the texts by some of their sublists is one of the strings in a mode. -/
theorem partOrder_of_relates_iff {operator : String} (part : List Char → List Char → Prop)
    (hoperator : ∀ a b, mode.Relates operator a b ↔ part (mode.fold b) (mode.fold a))
    (hsublist : ∀ s t, part s t → s.Sublist t) (hrefl : ∀ s, part s s)
    (htrans : ∀ s t u, part s t → part t u → part s u) (hnil : ∀ s, part [] s) :
    PartOrder (mode.Relates "equals") (mode.Relates operator) where
  refl a := (hoperator a a).2 (hrefl _)
  trans a b c hab hbc :=
    (hoperator a c).2 (htrans _ _ _ ((hoperator b c).1 hbc) ((hoperator a b).1 hab))
  equal_iff a b := by
    rw [relates_equals, hoperator, hoperator]
    constructor
    · intro h
      rw [h]
      exact ⟨hrefl _, hrefl _⟩
    · rintro ⟨hba, hab⟩
      exact (hsublist _ _ hab).antisymm (hsublist _ _ hba)
  empty a := by
    rw [hoperator, fold_empty]
    exact hnil _

theorem partOrder_startsWith : PartOrder (mode.Relates "equals") (mode.Relates "startsWith") :=
  partOrder_of_relates_iff (· <+: ·) (fun _ _ => relates_startsWith)
    (fun _ _ => List.IsPrefix.sublist) (fun _ => List.prefix_rfl)
    (fun _ _ _ => List.IsPrefix.trans) (fun _ => List.nil_prefix)

theorem partOrder_endsWith : PartOrder (mode.Relates "equals") (mode.Relates "endsWith") :=
  partOrder_of_relates_iff (· <:+ ·) (fun _ _ => relates_endsWith)
    (fun _ _ => List.IsSuffix.sublist) (fun _ => List.suffix_rfl)
    (fun _ _ _ => List.IsSuffix.trans) (fun _ => List.nil_suffix)

theorem partOrder_contains : PartOrder (mode.Relates "equals") (mode.Relates "contains") :=
  partOrder_of_relates_iff (· <:+: ·) (fun _ _ => relates_contains)
    (fun _ _ => List.IsInfix.sublist) (fun _ => List.infix_rfl)
    (fun _ _ _ => List.IsInfix.trans) (fun _ => List.nil_infix)

/-! ## Values that are not both strings -/

/-- What is not a string has no parts, and lacks none either. -/
theorem rejects_of_not_areStrings (h : ¬ l.AreStrings r) :
    ∀ o ∈ ["startsWith", "endsWith", "contains", "notContains"], mode.Rejects l o r := by
  have hrejects {o : Operator} (ho : o.isUnary = false) {holds : String → String → Prop}
      (haccepts : mode.Accepts l o.name r ↔ ∃ s t, l = .str s ∧ r = .str t ∧ holds s t) :
      mode.Rejects l o.name r :=
    ((decides_iff ho).2 haccepts).rejects_iff.2 fun ⟨s, t, hl, hr, _⟩ => h ⟨s, t, hl, hr⟩
  simp only [List.forall_mem_cons]
  exact ⟨hrejects (o := .startsWith) rfl accepts_startsWith,
    hrejects (o := .endsWith) rfl accepts_endsWith, hrejects (o := .contains) rfl accepts_contains,
    hrejects (o := .notContains) rfl accepts_notContains, by simp⟩

theorem equals_eq_same (h : ¬ l.AreStrings r) : l.equals mode r = l.same r := by
  unfold Value.equals
  split
  · next s t => exact absurd ⟨s, t, rfl, rfl⟩ h
  · rfl

/-- Equality of values that are not both strings is the structural one in every mode. -/
theorem decides_equality (h : ¬ l.AreStrings r) :
    mode.Decides l "equals" r (l.zeroed = r.zeroed) ∧
      mode.Decides l "notEquals" r (l.zeroed ≠ r.zeroed) := by
  constructor
  · refine (decides_iff (o := .equals) rfl).2 (accepts_equals.trans ?_)
    rw [equals_eq_same h, Value.same_iff]
  · refine (decides_iff (o := .notEquals) rfl).2 (accepts_notEquals.trans ?_)
    rw [equals_eq_same h, ← Bool.not_eq_true, Value.same_iff]

end CaseMode

/-- **The operators on strings are orders by parts.** In either mode each of the three is, with the
equality of this mode, and a string contains what it starts or ends with. For values that are not
both strings, they and the negation of the third are rejected, and equality is decided by structure.
-/
theorem strings_partOrder (mode : CaseMode) :
    (∀ o ∈ ["startsWith", "endsWith", "contains"],
        PartOrder (mode.Relates "equals") (mode.Relates o)) ∧
      (∀ a b, mode.Relates "startsWith" a b ∨ mode.Relates "endsWith" a b →
        mode.Relates "contains" a b) ∧
      ∀ l r : Value, ¬ l.AreStrings r →
        (∀ o ∈ ["startsWith", "endsWith", "contains", "notContains"], mode.Rejects l o r) ∧
          mode.Decides l "equals" r (l.zeroed = r.zeroed) ∧
          mode.Decides l "notEquals" r (l.zeroed ≠ r.zeroed) := by
  refine ⟨?_, fun a b h => ?_, fun l r h =>
    ⟨CaseMode.rejects_of_not_areStrings h, CaseMode.decides_equality h⟩⟩
  · simp only [List.forall_mem_cons]
    exact ⟨CaseMode.partOrder_startsWith, CaseMode.partOrder_endsWith, CaseMode.partOrder_contains,
      by simp⟩
  · rw [CaseMode.relates_contains]
    rcases h with h | h
    · exact (CaseMode.relates_startsWith.1 h).isInfix
    · exact (CaseMode.relates_endsWith.1 h).isInfix

/-- Parts of parts in differing case, and a number beside a string. -/
theorem strings_partOrder_greeting :
    CaseMode.ignored.Relates "contains" "Say HELLO" "ell" ∧
      CaseMode.ignored.Relates "endsWith" "hello" "HELLO" ∧
      ¬ CaseMode.exact.Relates "contains" "Say HELLO" "ell" ∧
      CaseMode.exact.Rejects (.str "1") "notContains" (.num (.whole 1 (by decide))) ∧
      CaseMode.exact.Accepts (.str "1") "notEquals" (.num (.whole 1 (by decide))) := by
  obtain ⟨horders, hcontains, -⟩ := strings_partOrder .ignored
  have hends : CaseMode.ignored.Relates "endsWith" "Say HELLO" "hello" := by decide +kernel
  have hstarts : CaseMode.ignored.Relates "contains" "hello" "ell" := by decide +kernel
  have hequal : CaseMode.ignored.Relates "equals" "hello" "HELLO" := by decide +kernel
  have hexact : ¬ CaseMode.exact.Relates "contains" "Say HELLO" "ell" := by decide +kernel
  have hnumber := (strings_partOrder .exact).2.2 (.str "1") (.num (.whole 1 (by decide)))
    (by rintro ⟨s, t, -, h⟩; cases h)
  exact ⟨(horders "contains" (by simp)).trans _ _ _ (hcontains _ _ (.inr hends)) hstarts,
    (((horders "endsWith" (by simp)).equal_iff _ _).1 hequal).1, hexact,
    hnumber.1 _ (by simp), hnumber.2.2.accepts_iff.2 (by simp [Value.zeroed])⟩

end Rulebook
