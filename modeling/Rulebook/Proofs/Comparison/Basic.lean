import Rulebook.Comparison

/-!
# When comparisons succeed

`mode.Accepts l o r` says that the judge of a mode finds `l` to stand in the relation `o` to `r`,
and `mode.Rejects l o r` that it finds the condition not to be matched. An operator is found by its
name, so that this comes down to what the operator says of the two values (`accepts_iff`), and every
operator that compares two values decides (`decides_iff`). For equality and for the operators on
strings it is spelled out here: they compare what the mode makes of the two texts.
-/

namespace Rulebook

/-- Both values are strings that stand in the relation, once the mode is applied to them. -/
theorem Value.stringsStand_eq_true {mode : CaseMode} {relation : List Char → List Char → Bool}
    {l r : Value} :
    l.stringsStand mode relation r = true ↔
      ∃ s t, l = .str s ∧ r = .str t ∧ relation (mode.fold s) (mode.fold t) = true := by
  constructor
  · intro h
    unfold stringsStand at h
    split at h
    · exact ⟨_, _, rfl, rfl, h⟩
    · cases h
  · rintro ⟨s, t, rfl, rfl, h⟩
    exact h

/-- The value is a number, or a string that reads as a finite number when trimmed. -/
inductive Value.Numeric : Value → Prop
  | num (n : Number) : Numeric (.num n)
  | str {s : String} {x : Binary64} (h : Numeral.read? (Text.trim s.toList) = some (.finite x)) :
      Numeric (.str s)

theorem Value.numeric_iff {v : Value} : v.Numeric ↔ ∃ x, v.numeric? = some x := by
  constructor
  · intro h
    cases h with
    | num n => exact ⟨n.toBinary64, rfl⟩
    | @str s x h => exact ⟨x, by rw [numeric?, h]; rfl⟩
  · rintro ⟨x, hx⟩
    cases v with
    | num n => exact .num n
    | str s =>
      obtain ⟨n, hn, hfinite⟩ := Option.bind_eq_some_iff.1 hx
      cases n with
      | finite y => exact .str hn
      | infinite | nan => cases hfinite
    | null | bool | arr | obj => cases hx

namespace CaseMode

/-- The comparison succeeds in this mode. -/
def Accepts (mode : CaseMode) (l : Value) (operator : String) (r : Value) : Prop :=
  ((Judge.standard mode).compare l operator r).value = .success

/-- The comparison fails in this mode, as a condition that is not matched. -/
def Rejects (mode : CaseMode) (l : Value) (operator : String) (r : Value) : Prop :=
  ((Judge.standard mode).compare l operator r).value.kind? = some .conditionFailed

instance (mode : CaseMode) (l : Value) (operator : String) (r : Value) :
    Decidable (mode.Accepts l operator r) :=
  inferInstanceAs (Decidable (_ = _))

instance (mode : CaseMode) (l : Value) (operator : String) (r : Value) :
    Decidable (mode.Rejects l operator r) :=
  inferInstanceAs (Decidable (_ = _))

/-- The comparison succeeds where this is so, and is rejected where it is not. -/
structure Decides (mode : CaseMode) (l : Value) (operator : String) (r : Value)
    (holds : Prop) : Prop where
  accepts_iff : mode.Accepts l operator r ↔ holds
  rejects_iff : mode.Rejects l operator r ↔ ¬ holds

variable {mode : CaseMode} {l r : Value}

/-- A comparison is accepted when the operator of that name holds. -/
theorem accepts_iff {o : Operator} :
    mode.Accepts l o.name r ↔ o.holds? mode l r = some true := by
  show (Judge.ofResult o.name ((Operator.ofName? o.name).bind _)).value = _ ↔ _
  rw [Operator.ofName?_name, Option.bind_some]
  cases o.holds? mode l r with
  | none => simp [Judge.ofResult, Judge.unhandled]
  | some holds => cases holds <;> simp [Judge.ofResult, Judge.outcome]

/-- A comparison is rejected when the operator of that name does not hold. -/
theorem rejects_iff {o : Operator} :
    mode.Rejects l o.name r ↔ o.holds? mode l r = some false := by
  show (Judge.ofResult o.name ((Operator.ofName? o.name).bind _)).value.kind? = _ ↔ _
  rw [Operator.ofName?_name, Option.bind_some]
  cases o.holds? mode l r with
  | none => simp [Judge.ofResult, Judge.unhandled, Outcome.kind?]
  | some holds => cases holds <;> simp [Judge.ofResult, Judge.outcome, Outcome.kind?]

/-- What compares two values decides whatever it accepts. -/
theorem decides_iff {o : Operator} (ho : o.isUnary = false) {holds : Prop} :
    mode.Decides l o.name r holds ↔ (mode.Accepts l o.name r ↔ holds) := by
  have hsome : ∃ b, o.holds? mode l r = some b := by
    cases o <;> first | exact ⟨_, rfl⟩ | cases ho
  obtain ⟨b, hb⟩ := hsome
  have hrejects : mode.Rejects l o.name r ↔ ¬ mode.Accepts l o.name r := by
    rw [rejects_iff, accepts_iff, hb]
    cases b <;> simp
  exact ⟨Decides.accepts_iff, fun h => ⟨h, hrejects.trans (not_congr h)⟩⟩

theorem accepts_equals : mode.Accepts l "equals" r ↔ l.equals mode r = true :=
  (accepts_iff (o := .equals)).trans Option.some_inj

theorem accepts_notEquals : mode.Accepts l "notEquals" r ↔ l.equals mode r = false :=
  (accepts_iff (o := .notEquals)).trans
    (Option.some_inj.trans (Bool.not_eq_true' (l.equals mode r)).to_iff)

theorem accepts_startsWith :
    mode.Accepts l "startsWith" r ↔
      ∃ s t, l = .str s ∧ r = .str t ∧ mode.fold t <+: mode.fold s := by
  refine (accepts_iff (o := .startsWith)).trans (Option.some_inj.trans ?_)
  simp only [Value.stringsStand_eq_true, List.isPrefixOf_iff_prefix]

theorem accepts_endsWith :
    mode.Accepts l "endsWith" r ↔
      ∃ s t, l = .str s ∧ r = .str t ∧ mode.fold t <:+ mode.fold s := by
  refine (accepts_iff (o := .endsWith)).trans (Option.some_inj.trans ?_)
  simp only [Value.stringsStand_eq_true, List.isSuffixOf_iff_suffix]

theorem accepts_contains :
    mode.Accepts l "contains" r ↔
      ∃ s t, l = .str s ∧ r = .str t ∧ mode.fold t <:+: mode.fold s := by
  refine (accepts_iff (o := .contains)).trans (Option.some_inj.trans ?_)
  simp only [Value.stringsStand_eq_true, Text.contains_iff]

theorem accepts_notContains :
    mode.Accepts l "notContains" r ↔
      ∃ s t, l = .str s ∧ r = .str t ∧ ¬ mode.fold t <:+: mode.fold s := by
  refine (accepts_iff (o := .notContains)).trans (Option.some_inj.trans ?_)
  simp only [Value.stringsStand_eq_true, Bool.not_eq_true', ← Bool.not_eq_true, Text.contains_iff]

end CaseMode
end Rulebook
