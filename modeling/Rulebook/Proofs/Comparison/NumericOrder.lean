import Rulebook.Proofs.Comparison.Equality
import Rulebook.Proofs.Number.DecimalText
import Rulebook.Proofs.Number.Range

/-!
# The order of numeric values

A number counts as itself, rounded if need be, and a string counts as the value of the decimal that
it writes, blanks at its ends apart (`Value.Counts`). Such a value there is if the decimal is in
range (`Value.numeric_str_iff`); so no word counts, nor what is too great. The four numeric
operators compare what the values count as.

**Theorem (`numeric_totalPreorder`).** In either mode the numeric operators are the comparisons of
one total preorder on the numeric values, and they reject all others. Numbers that are equal are
equal in this order too.

Nothing but finite numbers is ever counted. This is what makes the order total: there is no number
that is not in order with itself.
-/

namespace Rulebook

namespace Value

/-- The finite number that a value counts as. -/
inductive Counts : Value → Binary64 → Prop
  | num (n : Number) : Counts (.num n) n.toBinary64
  | str {s : String} {d : Decimal} {x : Binary64} (hd : Decimal.Writes (Text.trim s.toList) d)
      (hx : d.toBinary64? = some x) : Counts (.str s) x

theorem counts_iff {v : Value} {x : Binary64} : v.Counts x ↔ v.numeric? = some x := by
  constructor
  · intro h
    cases h with
    | num n => rfl
    | str hd hx =>
      rw [numeric?, Numeral.read?_eq_finite_iff.2 ⟨_, hd, hx⟩]
      rfl
  · intro h
    cases v with
    | num n =>
      cases h
      exact .num n
    | str s =>
      obtain ⟨n, hread, hfinite⟩ := Option.bind_eq_some_iff.1 h
      cases n with
      | finite y =>
        cases hfinite
        obtain ⟨d, hd, hx⟩ := Numeral.read?_eq_finite_iff.1 hread
        exact .str hd hx
      | infinite | nan => cases hfinite
    | null | bool | arr | obj => cases h

theorem Counts.unique {v : Value} {x y : Binary64} (hx : v.Counts x) (hy : v.Counts y) : x = y :=
  Option.some.inj ((counts_iff.1 hx).symm.trans (counts_iff.1 hy))

theorem numeric_iff_counts {v : Value} : v.Numeric ↔ ∃ x, v.Counts x := by
  simp only [counts_iff, numeric_iff]

/-- **Which strings count as numbers.** -/
theorem numeric_str_iff {s : String} :
    (Value.str s).Numeric ↔
      ∃ d, Decimal.Writes (Text.trim s.toList) d ∧ d.magnitude < overflowLimit := by
  rw [numeric_iff_counts]
  constructor
  · rintro ⟨x, h⟩
    cases h with
    | str hd hx => exact ⟨_, hd, Decimal.exists_toBinary64?_iff.1 ⟨x, hx⟩⟩
  · rintro ⟨d, hd, hrange⟩
    obtain ⟨x, hx⟩ := Decimal.exists_toBinary64?_iff.2 hrange
    exact ⟨x, .str hd hx⟩

/-- Both values count as numbers, and these stand in the relation. -/
def CountsStand (relation : Int → Int → Prop) (a b : Value) : Prop :=
  ∃ x y, a.Counts x ∧ b.Counts y ∧ relation x.scaled y.scaled

section

variable {relation : Int → Int → Prop} {a b : Value} {x y : Binary64}

theorem countsStand_iff (ha : a.Counts x) (hb : b.Counts y) :
    CountsStand relation a b ↔ relation x.scaled y.scaled := by
  rw [counts_iff] at ha hb
  simp [CountsStand, counts_iff, ha, hb]

theorem CountsStand.numeric (h : CountsStand relation a b) : a.Numeric ∧ b.Numeric := by
  obtain ⟨x, y, ha, hb, -⟩ := h
  exact ⟨numeric_iff_counts.2 ⟨x, ha⟩, numeric_iff_counts.2 ⟨y, hb⟩⟩

theorem numbersStand_eq_true [DecidableRel relation] :
    a.numbersStand (fun x y => decide (relation x.scaled y.scaled)) b = true ↔
      CountsStand relation a b := by
  unfold numbersStand CountsStand
  simp only [counts_iff]
  cases a.numeric? <;> cases b.numeric? <;> simp

theorem countsStand_swap :
    CountsStand (fun m n => relation n m) a b ↔ CountsStand relation b a := by
  constructor <;> exact fun ⟨x, y, ha, hb, h⟩ => ⟨y, x, hb, ha, h⟩

end
end Value

/-! ## What the operators decide -/

namespace CaseMode

variable {mode : CaseMode} {a b : Value}

theorem decides_numbers {o : Operator} (ho : o.isUnary = false) (relation : Int → Int → Prop)
    [DecidableRel relation]
    (h : o.holds? mode a b =
      some (a.numbersStand (fun x y => decide (relation x.scaled y.scaled)) b)) :
    mode.Decides a o.name b (Value.CountsStand relation a b) := by
  rw [decides_iff ho, accepts_iff, h, Option.some_inj]
  exact Value.numbersStand_eq_true

theorem decides_lessThanOrEquals :
    mode.Decides a "lessThanOrEquals" b (Value.CountsStand (· ≤ ·) a b) :=
  decides_numbers (o := .lessThanOrEquals) rfl _ rfl

theorem decides_lessThan : mode.Decides a "lessThan" b (Value.CountsStand (· < ·) a b) :=
  decides_numbers (o := .lessThan) rfl _ rfl

theorem decides_greaterThanOrEquals :
    mode.Decides a "greaterThanOrEquals" b (Value.CountsStand (· ≤ ·) b a) := by
  have h : mode.Decides a "greaterThanOrEquals" b (Value.CountsStand (fun m n => n ≤ m) a b) :=
    decides_numbers (o := .greaterThanOrEquals) rfl _ rfl
  rwa [Value.countsStand_swap] at h

theorem decides_greaterThan : mode.Decides a "greaterThan" b (Value.CountsStand (· < ·) b a) := by
  have h : mode.Decides a "greaterThan" b (Value.CountsStand (fun m n => n < m) a b) :=
    decides_numbers (o := .greaterThan) rfl _ rfl
  rwa [Value.countsStand_swap] at h

/-- What does not count as a number is in no order. -/
theorem rejects_of_not_numeric (h : ¬ (a.Numeric ∧ b.Numeric)) :
    ∀ o ∈ ["lessThanOrEquals", "lessThan", "greaterThanOrEquals", "greaterThan"],
      mode.Rejects a o b := by
  have hnone {relation : Int → Int → Prop} : ¬ Value.CountsStand relation a b :=
    fun hstand => h hstand.numeric
  have hnone' {relation : Int → Int → Prop} : ¬ Value.CountsStand relation b a :=
    fun hstand => h hstand.numeric.symm
  simp only [List.forall_mem_cons]
  exact ⟨decides_lessThanOrEquals.rejects_iff.2 hnone, decides_lessThan.rejects_iff.2 hnone,
    decides_greaterThanOrEquals.rejects_iff.2 hnone', decides_greaterThan.rejects_iff.2 hnone',
    by simp⟩

/-- Numbers that are equal in a mode count as the same. -/
theorem scaled_eq_of_accepts_equals {m n : Number} (h : mode.Accepts (.num m) "equals" (.num n)) :
    m.toBinary64.scaled = n.toBinary64.scaled :=
  Option.some.inj (scaled_numeric?_congr (equals_iff.1 (accepts_equals.1 h)))

end CaseMode

/-! ## The order -/

/-- Four relations are the comparisons of one total preorder on what is comparable. -/
structure TotalPreorderOn (comparable : Value → Prop) (le lt ge gt : Value → Value → Prop) :
    Prop where
  comparable_iff : ∀ a, comparable a ↔ le a a
  trans : ∀ a b c, le a b → le b c → le a c
  total : ∀ a b, comparable a → comparable b → le a b ∨ le b a
  lt_iff : ∀ a b, lt a b ↔ le a b ∧ ¬ le b a
  ge_iff : ∀ a b, ge a b ↔ le b a
  gt_iff : ∀ a b, gt a b ↔ lt b a

namespace Value

/-- Values are ordered by the numbers that they count as. -/
theorem totalPreorderOn_countsStand :
    TotalPreorderOn Numeric (CountsStand (· ≤ ·)) (CountsStand (· < ·))
      (fun a b => CountsStand (· ≤ ·) b a) (fun a b => CountsStand (· < ·) b a) where
  comparable_iff a := by
    refine ⟨fun h => ?_, fun h => h.numeric.1⟩
    obtain ⟨x, hx⟩ := numeric_iff_counts.1 h
    exact ⟨x, x, hx, hx, le_rfl⟩
  trans := by
    rintro a b c ⟨x, y, ha, hb, hxy⟩ ⟨y', z, hb', hc, hyz⟩
    obtain rfl : y = y' := hb.unique hb'
    exact ⟨x, z, ha, hc, le_trans hxy hyz⟩
  total a b ha hb := by
    obtain ⟨x, hx⟩ := numeric_iff_counts.1 ha
    obtain ⟨y, hy⟩ := numeric_iff_counts.1 hb
    rw [countsStand_iff hx hy, countsStand_iff hy hx]
    exact le_total x.scaled y.scaled
  lt_iff a b := by
    constructor
    · rintro ⟨x, y, hx, hy, hlt⟩
      rw [countsStand_iff hx hy, countsStand_iff hy hx]
      exact lt_iff_le_not_ge.1 hlt
    · rintro ⟨⟨x, y, hx, hy, hle⟩, hnot⟩
      rw [countsStand_iff hy hx] at hnot
      exact ⟨x, y, hx, hy, lt_of_le_not_ge hle hnot⟩
  ge_iff _ _ := Iff.rfl
  gt_iff _ _ := Iff.rfl

end Value

/-- **The numeric operators order the numeric values.** In either mode they are the comparisons of
one total preorder, that of what the values count as. Numeric are the numbers and the strings that
write a decimal in range; equal numbers are equal in the order, and whatever is not numeric is
rejected. -/
theorem numeric_totalPreorder (mode : CaseMode) :
    TotalPreorderOn Value.Numeric (fun a b => mode.Accepts a "lessThanOrEquals" b)
        (fun a b => mode.Accepts a "lessThan" b)
        (fun a b => mode.Accepts a "greaterThanOrEquals" b)
        (fun a b => mode.Accepts a "greaterThan" b) ∧
      (∀ a b, mode.Accepts a "lessThanOrEquals" b ↔
        ∃ x y, a.Counts x ∧ b.Counts y ∧ x.scaled ≤ y.scaled) ∧
      (∀ v : Value, v.Numeric ↔ (∃ n, v = .num n) ∨
        ∃ s d, v = .str s ∧ Decimal.Writes (Text.trim s.toList) d ∧ d.magnitude < overflowLimit) ∧
      (∀ m n, mode.Accepts (.num m) "equals" (.num n) →
        mode.Accepts (.num m) "lessThanOrEquals" (.num n) ∧
          mode.Accepts (.num n) "lessThanOrEquals" (.num m)) ∧
      ∀ a b, ¬ (a.Numeric ∧ b.Numeric) →
        ∀ o ∈ ["lessThanOrEquals", "lessThan", "greaterThanOrEquals", "greaterThan"],
          mode.Rejects a o b := by
  simp only [CaseMode.decides_lessThanOrEquals.accepts_iff, CaseMode.decides_lessThan.accepts_iff,
    CaseMode.decides_greaterThanOrEquals.accepts_iff, CaseMode.decides_greaterThan.accepts_iff]
  refine ⟨Value.totalPreorderOn_countsStand, fun a b => Iff.rfl, fun v => ?_, fun m n hequal => ?_,
    fun a b h => CaseMode.rejects_of_not_numeric h⟩
  · constructor
    · rintro (n | hread)
      · exact .inl ⟨n, rfl⟩
      · obtain ⟨d, hd⟩ := Value.numeric_str_iff.1 (.str hread)
        exact .inr ⟨_, d, rfl, hd⟩
    · rintro (⟨n, rfl⟩ | ⟨s, d, rfl, hd⟩)
      · exact .num n
      · exact Value.numeric_str_iff.2 ⟨d, hd⟩
  · have hsame := CaseMode.scaled_eq_of_accepts_equals hequal
    rw [Value.countsStand_iff (.num m) (.num n), Value.countsStand_iff (.num n) (.num m)]
    exact ⟨hsame.le, hsame.ge⟩

/-- A text, a number and a text in this order, and a text that is too great to be in it. -/
theorem numeric_totalPreorder_thousand :
    let small : Value := .str " 1e3 "
    let middle : Value := .num (.whole 1000 (by decide))
    let great : Value := .str "+2.5E3"
    let infinite : Value := .str "1e400"
    CaseMode.exact.Accepts small "lessThanOrEquals" great ∧ great.Numeric ∧
      CaseMode.exact.Accepts great "greaterThan" middle ∧ ¬ infinite.Numeric ∧
      CaseMode.exact.Rejects infinite "greaterThan" middle := by
  intro small middle great infinite
  obtain ⟨horder, -, -, -, hrejects⟩ := numeric_totalPreorder .exact
  have hfirst : CaseMode.exact.Accepts small "lessThanOrEquals" middle := by decide +kernel
  have hsecond : CaseMode.exact.Accepts middle "lessThan" great := by decide +kernel
  have hgreat : CaseMode.exact.Accepts great "lessThanOrEquals" great := by decide +kernel
  have hinfinite : ¬ CaseMode.exact.Accepts infinite "lessThanOrEquals" infinite := by
    decide +kernel
  have hnot : ¬ infinite.Numeric := fun h => hinfinite ((horder.comparable_iff _).1 h)
  exact ⟨horder.trans _ _ _ hfirst ((horder.lt_iff _ _).1 hsecond).1,
    (horder.comparable_iff _).2 hgreat, (horder.gt_iff _ _).2 hsecond, hnot,
    hrejects _ _ (fun h => hnot h.1) _ (by simp)⟩

end Rulebook
