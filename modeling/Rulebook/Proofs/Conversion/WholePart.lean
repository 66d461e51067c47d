import Mathlib.Data.Rat.Floor
import Rulebook.Proofs.Conversion.Reading

/-!
# The whole part of a number

`int` takes whole numbers that fit 64 bits with a sign as they are, also from text. All else it
takes through binary64. So there are two paths to a whole part, and only one of them rounds; past
64 bits with a sign both end at the clamp (`Conversion.clamp64_wholePart`).

**Theorem (`int_truncates_in_order`).** The whole part of a number is its exact value cut off toward
zero and clamped to 64 bits, and whole numbers of 64 bits are kept. Converting again changes
nothing, and values that are in order have their whole parts in order.

The whole parts need not be in the order of whole numbers: past `2 ^ 53` a value that is kept may be
equal to one that is rounded below it. But whole numbers are rounded to whole numbers, so that
rounding before the cut makes no difference to what the whole part counts as
(`Binary64.wholeUnits_clamp64_truncate`), not even at the ends of the range. So both paths come to
the whole part of the number that the value counts as, and there every step keeps the order.
-/

namespace Rulebook

/-! ## Cutting off toward zero -/

/-- The whole number that is next to a rational one on the side of zero. -/
def towardZero (q : ℚ) : Int := if q < 0 then ⌈q⌉ else ⌊q⌋

theorem towardZero_intCast (i : Int) : towardZero i = i := by
  simp [towardZero]

/-- The number as it is given, not rounded. -/
def Number.exact : Number → ℚ
  | .whole i _ => i
  | .real x => x.scaled / Binary64.unitsPerOne

namespace Binary64

theorem truncate_eq (x : Binary64) : x.truncate = x.scaled.tdiv unitsPerOne := by
  unfold truncate scaled
  split
  · rw [Int.neg_tdiv, Int.ofNat_tdiv]
  · rw [Int.ofNat_tdiv]

theorem truncate_mono {x y : Binary64} (h : x.scaled ≤ y.scaled) : x.truncate ≤ y.truncate := by
  rw [truncate_eq, truncate_eq]
  exact Int.tdiv_le_tdiv (Int.natCast_pos.2 unitsPerOne_pos) h

theorem towardZero_scaled (x : Binary64) : towardZero (x.scaled / unitsPerOne) = x.truncate := by
  have hpos : (0 : ℚ) < unitsPerOne := Nat.cast_pos.2 unitsPerOne_pos
  have hneg : (x.scaled / unitsPerOne : ℚ) < 0 ↔ x.scaled < 0 := by
    rw [div_lt_iff₀ hpos, zero_mul, Int.cast_lt_zero]
  unfold towardZero
  rw [truncate_eq, Rat.floor_intCast_div_natCast, Rat.ceil_intCast_div_natCast]
  by_cases h : x.scaled < 0
  · rw [if_pos (hneg.2 h), ← Int.tdiv_eq_ediv_of_nonneg (by omega), Int.neg_tdiv, Int.neg_neg]
  · rw [if_neg (hneg.not.2 h), Int.tdiv_eq_ediv_of_nonneg (by omega)]

end Binary64

/-! ## Clamping to 64 bits -/

theorem clamp64_mono {i j : Int} (h : i ≤ j) : clamp64 i ≤ clamp64 j :=
  max_le_max_left _ (min_le_min_right _ h)

theorem clamp64_of_range {i : Int} (h : -(2 ^ 63) ≤ i ∧ i < 2 ^ 63) : clamp64 i = i := by
  simp only [clamp64]
  omega

theorem clamp64_clamp64 (i : Int) : clamp64 (clamp64 i) = clamp64 i := by
  simp only [clamp64]
  omega

theorem Value.ofClamped_congr {i j : Int} (h : clamp64 i = clamp64 j) :
    ofClamped i = ofClamped j := by
  simp only [ofClamped, h]

theorem Value.ofClamped_of_range {i : Int} (h : -(2 ^ 63) ≤ i ∧ i < 2 ^ 63) :
    ofClamped i = .num (.whole i ⟨h.1, by omega⟩) := by
  simp only [ofClamped, clamp64_of_range h]

namespace Binary64

theorem mul_unitsPerOne_tdiv (r : Int) : (r * unitsPerOne).tdiv unitsPerOne = r :=
  Int.mul_tdiv_cancel r (Int.natCast_ne_zero.2 unitsPerOne_pos.ne')

/-- What is rounded is a whole number, and rounding it again does not move it. -/
theorem wholeUnits_tdiv (i : Int) :
    wholeUnits ((wholeUnits i).tdiv unitsPerOne) = wholeUnits i := by
  obtain ⟨r, hr, hgrid⟩ := exists_wholeUnits_eq i
  rw [hr, mul_unitsPerOne_tdiv, wholeUnits_of_onGrid hgrid]

/-- As rounding keeps the order, clamping may come after it. -/
theorem wholeUnits_clamp64 (i : Int) :
    wholeUnits (clamp64 i) =
      max (wholeUnits (-(2 ^ 63))) (min (wholeUnits i) (wholeUnits (2 ^ 63 - 1))) := by
  have hmono : Monotone wholeUnits := fun _ _ => wholeUnits_mono
  rw [clamp64, hmono.map_max, hmono.map_min]

theorem scaled_whole {i : Int} (range : -(2 ^ 63) ≤ i ∧ i < 2 ^ 64) :
    (Number.toBinary64 (.whole i range)).scaled = wholeUnits i :=
  scaled_ofWhole_eq i (by omega)

/-- **Rounding before the cut makes no difference.** -/
theorem wholeUnits_clamp64_truncate {i : Int} {x : Binary64} (h : x.scaled = wholeUnits i) :
    wholeUnits (clamp64 x.truncate) = wholeUnits (clamp64 i) := by
  rw [wholeUnits_clamp64, wholeUnits_clamp64, truncate_eq, h, wholeUnits_tdiv]

end Binary64

/-! ## Whole parts of values -/

namespace Conversion

open Binary64

theorem wholePart_whole {i : Int} (range : -(2 ^ 63) ≤ i ∧ i < 2 ^ 64) (h : i < 2 ^ 63) :
    wholePart (.whole i range) = i := by
  rw [wholePart, int64?, if_pos h, Option.getD_some]

theorem wholePart_whole_of_le {i : Int} (range : -(2 ^ 63) ≤ i ∧ i < 2 ^ 64) (h : 2 ^ 63 ≤ i) :
    wholePart (.whole i range) = (Number.toBinary64 (.whole i range)).truncate := by
  rw [wholePart, int64?, if_neg (Int.not_lt.2 h), Option.getD_none]

theorem truncate_ofWhole {i : Int} (hi : i.natAbs < 2 ^ 64) (h : OnGrid (i.natAbs * unitsPerOne)) :
    (ofWhole i hi).truncate = i := by
  rw [truncate_eq, scaled_ofWhole_eq, wholeUnits_of_onGrid h, mul_unitsPerOne_tdiv]

/-- Past the whole numbers of 64 bits with a sign, the rounded number is clamped to the same. -/
theorem clamp64_truncate_ofWhole {i : Int} (hi : i.natAbs < 2 ^ 64) (h : 2 ^ 63 ≤ i) :
    clamp64 (ofWhole i hi).truncate = clamp64 i := by
  have hgrid : OnGrid ((2 ^ 63 : Int).natAbs * unitsPerOne) := by
    have hpow : (2 ^ 63 : Int).natAbs = 2 ^ 63 := by decide
    exact ⟨1, 63 + oneExponent, by rw [hpow, Nat.one_mul, Nat.pow_add, ← unitsPerOne], by decide⟩
  have hle : (ofWhole (2 ^ 63) (by decide)).truncate ≤ (ofWhole i hi).truncate :=
    truncate_mono (scaled_ofWhole_le _ _ h)
  rw [truncate_ofWhole (by decide) hgrid] at hle
  simp only [clamp64]
  omega

/-- **Both paths end at the clamp of the exact value.** -/
theorem clamp64_wholePart (n : Number) : clamp64 (wholePart n) = clamp64 (towardZero n.exact) := by
  cases n with
  | whole i range =>
    rw [Number.exact, towardZero_intCast]
    rcases Int.lt_or_le i (2 ^ 63) with h | h
    · rw [wholePart_whole range h]
    · rw [wholePart_whole_of_le range h]
      exact clamp64_truncate_ofWhole (by omega) h
  | real x =>
    rw [Number.exact, x.towardZero_scaled]
    rfl

theorem int_num (n : Number) : int (some (.num n)) = some (.ofClamped (towardZero n.exact)) := by
  rw [int, Value.ofClamped_congr (clamp64_wholePart n)]

theorem int_ofClamped (i : Int) : int (some (.ofClamped i)) = some (.ofClamped i) := by
  rw [Value.ofClamped, int_num, Number.exact, towardZero_intCast,
    Value.ofClamped_congr (clamp64_clamp64 i), Value.ofClamped]

theorem int_int (v : Option Value) : int (int v) = int v := by
  cases v with
  | none => rfl
  | some v =>
    cases v with
    | null | arr | obj => rfl
    | bool b => exact int_ofClamped b.toInt
    | num n => exact int_ofClamped (wholePart n)
    | str s =>
      by_cases h : (Value.str s).Numeric
      · obtain ⟨i, -, hi⟩ := int_str_of_numeric h
        rw [hi, int_ofClamped]
      · rw [int_str_of_not_numeric h, int_str_of_not_numeric h]

/-- A text gives the whole part of the number that it counts as, or else a whole number that is
rounded to it. -/
theorem textWholePart?_cases {s : String} {x : Binary64} {i : Int} (h : (Value.str s).Counts x)
    (hi : textWholePart? (Text.trim s.toList) = some i) :
    x.scaled = wholeUnits i ∨ i = x.truncate := by
  rcases Option.or_eq_some_iff.1 hi with hread | ⟨-, hfinite⟩
  · obtain ⟨y, hy, hscaled⟩ := counts_of_readInt64? hread
    rw [h.unique hy]
    exact .inl hscaled
  · obtain ⟨y, hy, rfl⟩ := Option.map_eq_some_iff.1 hfinite
    rw [h.unique (Value.counts_iff.2 hy)]
    exact .inr rfl

/-- The whole part of a value counts as that of the number which the value counts as. -/
theorem exists_int_of_counts {v : Value} {x : Binary64} (h : v.Counts x) :
    ∃ i, int (some v) = some (.ofClamped i) ∧
      wholeUnits (clamp64 i) = wholeUnits (clamp64 x.truncate) := by
  cases v with
  | num n =>
    cases h
    cases n with
    | whole i range =>
      refine ⟨i, ?_, (wholeUnits_clamp64_truncate (scaled_whole range)).symm⟩
      rw [int_num, Number.exact, towardZero_intCast]
    | real x => exact ⟨x.truncate, rfl, rfl⟩
  | str s =>
    obtain ⟨i, hi, hint⟩ := int_str_of_numeric (Value.numeric_iff_counts.2 ⟨x, h⟩)
    refine ⟨i, hint, ?_⟩
    rcases textWholePart?_cases h hi with hscaled | rfl
    · exact (wholeUnits_clamp64_truncate hscaled).symm
    · rfl
  | null | bool | arr | obj => cases h

end Conversion

theorem Value.counts_ofClamped (i : Int) :
    ∃ x, (ofClamped i).Counts x ∧ x.scaled = Binary64.wholeUnits (clamp64 i) :=
  ⟨_, .num _, Binary64.scaled_whole (clamp64_range i)⟩

/-- **`int` cuts off toward zero and keeps the order.** It clamps the exact value to 64 bits, keeps
whole numbers of 64 bits, and does nothing more the second time. Numeric values that are in order,
be they numbers or strings, have whole parts in order. -/
theorem int_truncates_in_order (mode : CaseMode) :
    (∀ n, Conversion.int (some (.num n)) = some (.ofClamped (towardZero n.exact))) ∧
      (∀ (n : Number) (i : Int) range, n.exact = i → i < 2 ^ 63 →
        Conversion.int (some (.num n)) = some (.num (.whole i range))) ∧
      (∀ v, Conversion.int (Conversion.int v) = Conversion.int v) ∧
      ∀ v w, mode.Accepts v "lessThanOrEquals" w →
        ∃ i j, Conversion.int (some v) = some (.ofClamped i) ∧
          Conversion.int (some w) = some (.ofClamped j) ∧
          mode.Accepts (.ofClamped i) "lessThanOrEquals" (.ofClamped j) := by
  refine ⟨Conversion.int_num, ?_, Conversion.int_int, ?_⟩
  · intro n i range hi hlt
    rw [Conversion.int_num, hi, towardZero_intCast, Value.ofClamped_of_range ⟨range.1, hlt⟩]
  · intro v w hle
    obtain ⟨x, y, hx, hy, hxy⟩ := CaseMode.decides_lessThanOrEquals.accepts_iff.1 hle
    obtain ⟨i, hi, hiUnits⟩ := Conversion.exists_int_of_counts hx
    obtain ⟨j, hj, hjUnits⟩ := Conversion.exists_int_of_counts hy
    obtain ⟨x', hx', hx'Units⟩ := Value.counts_ofClamped i
    obtain ⟨y', hy', hy'Units⟩ := Value.counts_ofClamped j
    refine ⟨i, j, hi, hj, CaseMode.decides_lessThanOrEquals.accepts_iff.2 ⟨x', y', hx', hy', ?_⟩⟩
    calc x'.scaled = Binary64.wholeUnits (clamp64 x.truncate) := hx'Units.trans hiUnits
      _ ≤ Binary64.wholeUnits (clamp64 y.truncate) :=
        Binary64.wholeUnits_mono (clamp64_mono (Binary64.truncate_mono hxy))
      _ = y'.scaled := (hy'Units.trans hjUnits).symm

/-- Two values that count as `2 ^ 53`: the whole part of the first is greater than that of the
second, but counts as the same. -/
theorem int_truncates_in_order_neighbours :
    let next : Value := .num (.whole (2 ^ 53 + 1) (by decide))
    let half : Value := .str " 9007199254740992.5"
    CaseMode.exact.Accepts next "lessThanOrEquals" half ∧
      Conversion.int (some next) = some next ∧
      Conversion.int (some half) = some (.ofClamped (2 ^ 53)) ∧
      CaseMode.exact.Accepts next "lessThanOrEquals" (.ofClamped (2 ^ 53)) := by
  intro next half
  obtain ⟨-, hkept, -, horder⟩ := int_truncates_in_order .exact
  have hle : CaseMode.exact.Accepts next "lessThanOrEquals" half := by decide +kernel
  have hnext : Conversion.int (some next) = some next :=
    hkept _ (2 ^ 53 + 1) (by decide) rfl (by decide)
  have hpart :
      Conversion.textWholePart? (Text.trim " 9007199254740992.5".toList) = some (2 ^ 53) := by
    decide +kernel
  have hhalf : Conversion.int (some half) = some (.ofClamped (2 ^ 53)) := by
    rw [Conversion.int, hpart]
  obtain ⟨i, j, hi, hj, hparts⟩ := horder next half hle
  have hfirst : Value.ofClamped i = next := Option.some.inj (hi.symm.trans hnext)
  have hsecond : Value.ofClamped j = .ofClamped (2 ^ 53) := Option.some.inj (hj.symm.trans hhalf)
  rw [hfirst, hsecond] at hparts
  exact ⟨hle, hnext, hhalf, hparts⟩

end Rulebook
