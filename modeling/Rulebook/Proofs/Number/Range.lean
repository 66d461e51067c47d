import Mathlib.Algebra.Order.Field.Rat
import Mathlib.Algebra.Order.Field.Power
import Mathlib.Tactic.NormNum
import Mathlib.Tactic.Positivity
import Rulebook.Number.Numeral
import Rulebook.Proofs.Number.Rounding

/-!
# Which decimals are in range

A decimal has a binary64 value unless it is too great.

**Theorem (`Decimal.exists_toBinary64?_iff`).** It has one exactly if its magnitude is below
`2 ^ 1024 - 2 ^ 970`, half a step past the greatest binary64 number.

The two clamps that spare the forming of powers agree with this: a decimal that is not zero with an
exponent past the one clamp is above the limit, and with an exponent past the other it is below one.
-/

namespace Rulebook

/-- Half a step past the greatest binary64 number, which is `2 ^ 1024 - 2 ^ 970`. -/
def overflowLimit : Nat := (2 ^ 54 - 1) * 2 ^ (topExponent - 54 - oneExponent)

theorem overflowUnits_eq : overflowUnits = overflowLimit * Binary64.unitsPerOne := by
  have hexponent : topExponent - 54 = topExponent - 54 - oneExponent + oneExponent := rfl
  rw [overflowUnits, hexponent, Nat.pow_add, overflowLimit, Binary64.unitsPerOne, Nat.mul_assoc]

theorem overflowLimit_pos : 0 < overflowLimit := Nat.mul_pos (by decide) (Nat.two_pow_pos _)

theorem overflowLimit_le_ten_pow {k : Nat} (h : 400 < k) : overflowLimit ≤ 10 ^ k := by
  have hexponent : 54 + (topExponent - 54 - oneExponent) ≤ 3 * k := by
    simp only [topExponent, oneExponent]
    omega
  calc overflowLimit ≤ 2 ^ (54 + (topExponent - 54 - oneExponent)) := Nat.le_of_lt (leading_lt _)
    _ ≤ 2 ^ (3 * k) := Nat.pow_le_pow_right (by decide) hexponent
    _ = 8 ^ k := Nat.pow_mul 2 3 k
    _ ≤ 10 ^ k := Nat.pow_le_pow_left (by decide) k

theorem Binary64.exists_ofRatio?_iff {negative : Bool} {num den : Nat} {hden : 0 < den} :
    (∃ x, ofRatio? negative num den hden = some x) ↔ (num : ℚ) / den < overflowLimit := by
  have hcross : num * unitsPerOne < overflowUnits * den ↔ num < overflowLimit * den := by
    rw [overflowUnits_eq, Nat.mul_right_comm]
    exact Nat.mul_lt_mul_right (Nat.two_pow_pos _)
  have hpos : (0 : ℚ) < den := by exact_mod_cast hden
  rw [div_lt_iff₀ hpos]
  norm_cast
  rw [← hcross, ← roundUnits_lt_iff hden, ofRatio?]
  split <;> simp [*]

namespace Decimal

/-- The number without its sign. -/
def magnitude (d : Decimal) : ℚ := d.digits * 10 ^ d.exponent

theorem magnitude_of_nonneg {d : Decimal} (h : 0 ≤ d.exponent) :
    d.magnitude = (d.digits * 10 ^ d.exponent.toNat : Nat) / (1 : Nat) := by
  have hpow : (10 : ℚ) ^ d.exponent = 10 ^ d.exponent.toNat := by
    rw [← zpow_natCast, Int.toNat_of_nonneg h]
  rw [magnitude, hpow]
  push_cast
  rw [div_one]

theorem magnitude_of_neg {d : Decimal} (h : ¬ 0 ≤ d.exponent) :
    d.magnitude = d.digits / (10 ^ (-d.exponent).toNat : Nat) := by
  have hpow : (10 : ℚ) ^ d.exponent = (10 ^ (-d.exponent).toNat)⁻¹ := by
    rw [← zpow_natCast, Int.toNat_of_nonneg (by omega), zpow_neg, inv_inv]
  rw [magnitude, hpow, div_eq_mul_inv]
  push_cast
  rfl

/-- A decimal that is not zero and past the upper clamp is too great. -/
theorem overflowLimit_le_magnitude {d : Decimal} (hd : d.digits ≠ 0) (h : 400 < d.exponent) :
    overflowLimit ≤ d.magnitude := by
  rw [magnitude_of_nonneg (by omega), Nat.cast_one, div_one, Nat.cast_le]
  calc overflowLimit ≤ 10 ^ d.exponent.toNat := overflowLimit_le_ten_pow (by omega)
    _ ≤ d.digits * 10 ^ d.exponent.toNat := Nat.le_mul_of_pos_left _ (Nat.pos_of_ne_zero hd)

/-- A decimal past the lower clamp is less than one. -/
theorem magnitude_lt_overflowLimit {d : Decimal} (h : d.exponent < -(1100 + d.digits.log2)) :
    d.magnitude < overflowLimit := by
  have hpow : d.digits < 10 ^ (-d.exponent).toNat :=
    calc d.digits < 2 ^ (d.digits.log2 + 1) := Nat.lt_log2_self
      _ ≤ 10 ^ (d.digits.log2 + 1) := Nat.pow_le_pow_left (by decide) _
      _ ≤ 10 ^ (-d.exponent).toNat := Nat.pow_le_pow_right (by decide) (by omega)
  rw [magnitude_of_neg (by omega)]
  refine lt_of_lt_of_le ?_ (Nat.one_le_cast.2 overflowLimit_pos)
  rwa [div_lt_one (Nat.cast_pos.2 (Nat.zero_lt_of_lt hpow)), Nat.cast_lt]

/-- **A decimal is in range** exactly below half a step past the greatest binary64 number. -/
theorem exists_toBinary64?_iff {d : Decimal} :
    (∃ x, d.toBinary64? = some x) ↔ d.magnitude < overflowLimit := by
  unfold toBinary64?
  split
  · next h0 =>
    have hzero : d.magnitude = 0 := by rw [magnitude, h0, Nat.cast_zero, zero_mul]
    rw [hzero]
    exact iff_of_true ⟨_, rfl⟩ (Nat.cast_pos.2 overflowLimit_pos)
  · next h0 =>
    split
    · next hgreat =>
      exact iff_of_false (by simp) (overflowLimit_le_magnitude h0 hgreat).not_gt
    · split
      · next hsmall =>
        exact iff_of_true ⟨_, rfl⟩ (magnitude_lt_overflowLimit hsmall)
      · split
        · next hexp =>
          rw [Binary64.exists_ofRatio?_iff, magnitude_of_nonneg hexp]
        · next hexp =>
          rw [Binary64.exists_ofRatio?_iff, magnitude_of_neg hexp]

end Decimal
end Rulebook
