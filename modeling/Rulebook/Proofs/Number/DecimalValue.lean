import Rulebook.Proofs.Number.Range

/-!
# The value of a decimal

**Theorem (`Decimal.toBinary64?_eq_some_iff`).** A decimal reads as a number exactly if it is in
range, has the sign of the number, and has a magnitude of which the number's is the nearest. So
decimals of one sign and one magnitude read as the same number, however they are written
(`Decimal.toBinary64?_congr`).

Rounding is defined on quotients of whole numbers. That a rational number has many of them makes no
difference (`nearestUnits_div`), because rounding keeps the order.
-/

namespace Rulebook

theorem roundUnits_congr {num den num' den' : Nat} (hden : 0 < den) (hden' : 0 < den')
    (h : num * den' = num' * den) : roundUnits num den = roundUnits num' den' :=
  Nat.le_antisymm (roundUnits_mono hden hden' h.le) (roundUnits_mono hden' hden h.ge)

/-- What is less than half a unit is rounded to zero. -/
theorem roundUnits_of_lt {num den : Nat} (h : 2 * num < den) : roundUnits num den = 0 := by
  have hdiv : num / den = 0 := Nat.div_eq_of_lt (by omega)
  have hmod : num % den = num := Nat.mod_eq_of_lt (by omega)
  simp [roundUnits, roundHalfEven, hdiv, hmod, h]

namespace Binary64

theorem eq_of_units_eq {x y : Binary64} (hnegative : x.negative = y.negative)
    (hunits : x.units = y.units) : x = y := by
  cases x
  cases y
  simp_all

/-- A number that is there under a condition, with this sign and these units, is known by them. -/
theorem eq_some_iff_of_units {read : Option Binary64} {p : Prop} {negative : Bool} {units : Nat}
    (hrange : (∃ x, read = some x) ↔ p)
    (hunits : ∀ x, read = some x → x.negative = negative ∧ x.units = units) {x : Binary64} :
    read = some x ↔ p ∧ x.negative = negative ∧ x.units = units := by
  constructor
  · intro h
    exact ⟨hrange.1 ⟨x, h⟩, hunits x h⟩
  · rintro ⟨hp, hnegative, hx⟩
    obtain ⟨y, hy⟩ := hrange.2 hp
    obtain ⟨hnegative', hy'⟩ := hunits y hy
    rw [hy, eq_of_units_eq (hnegative.trans hnegative'.symm) (hx.trans hy'.symm)]

/-- The magnitude nearest to a rational number that is not negative, in units. -/
def nearestUnits (q : ℚ) : Nat := roundUnits (q.num.toNat * unitsPerOne) q.den

/-- Any quotient of whole numbers may be rounded. -/
theorem nearestUnits_div (num : Nat) {den : Nat} (hden : 0 < den) :
    nearestUnits (num / den) = roundUnits (num * unitsPerOne) den := by
  have hnum : ((num / den : ℚ).num.toNat : ℚ) = (num / den : ℚ).num := by
    have hnonneg : 0 ≤ (num / den : ℚ).num := Rat.num_nonneg.2 (by positivity)
    exact_mod_cast Int.toNat_of_nonneg hnonneg
  have hcross : (num / den : ℚ).num.toNat * den = num * (num / den : ℚ).den := by
    have hquot := Rat.num_div_den (num / den : ℚ)
    rw [← hnum, div_eq_div_iff (by simp) (by exact_mod_cast hden.ne')] at hquot
    exact_mod_cast hquot
  refine roundUnits_congr (Rat.den_pos _) hden ?_
  rw [Nat.mul_right_comm, hcross, Nat.mul_right_comm]

theorem units_of_ofRatio? {negative : Bool} {num den : Nat} {hden : 0 < den} {x : Binary64}
    (h : ofRatio? negative num den hden = some x) :
    x.negative = negative ∧ x.units = nearestUnits (num / den) := by
  unfold ofRatio? at h
  split at h
  · cases h
    exact ⟨rfl, (nearestUnits_div num hden).symm⟩
  · cases h

theorem ofRatio?_eq_some_iff {negative : Bool} {num den : Nat} {hden : 0 < den} {x : Binary64} :
    ofRatio? negative num den hden = some x ↔
      (num / den : ℚ) < overflowLimit ∧ x.negative = negative ∧
        x.units = nearestUnits (num / den) :=
  eq_some_iff_of_units exists_ofRatio?_iff fun _ => units_of_ofRatio?

theorem nearestUnits_mono {p q : ℚ} (hp : 0 ≤ p) (h : p ≤ q) : nearestUnits p ≤ nearestUnits q := by
  have hcross : p.num.toNat * q.den ≤ q.num.toNat * p.den := by
    have hle := (Rat.le_iff p q).1 h
    zify
    rwa [Int.toNat_of_nonneg (Rat.num_nonneg.2 hp),
      Int.toNat_of_nonneg (Rat.num_nonneg.2 (hp.trans h))]
  refine roundUnits_mono (Rat.den_pos p) (Rat.den_pos q) ?_
  rw [Nat.mul_right_comm, Nat.mul_right_comm _ unitsPerOne]
  exact Nat.mul_le_mul_right _ hcross

/-- The number without its sign, as a rational number. -/
def magnitude (x : Binary64) : ℚ := x.units / unitsPerOne

/-- The number itself is nearest to its magnitude. -/
theorem nearestUnits_magnitude (x : Binary64) : nearestUnits x.magnitude = x.units := by
  rw [magnitude, nearestUnits_div _ unitsPerOne_pos, ← roundUnits_of_onGrid x.onGrid]
  refine roundUnits_congr unitsPerOne_pos Nat.one_pos ?_
  rw [roundUnits_of_onGrid x.onGrid, Nat.mul_one]

theorem magnitude_lt (x : Binary64) : x.magnitude < overflowLimit := by
  have hunits : x.units < overflowUnits := by
    have hround := (roundUnits_lt_iff Nat.one_pos).1
      ((roundUnits_of_onGrid x.onGrid).symm ▸ x.inRange)
    rwa [Nat.mul_one] at hround
  rw [overflowUnits_eq] at hunits
  rw [magnitude, div_lt_iff₀ (Nat.cast_pos.2 unitsPerOne_pos)]
  exact_mod_cast hunits

end Binary64

namespace Decimal

open Binary64

variable {d : Decimal} {x : Binary64}

/-- A decimal past the lower clamp is nearest to zero. -/
theorem nearestUnits_magnitude_of_small (h : d.exponent < -(1100 + d.digits.log2)) :
    nearestUnits d.magnitude = 0 := by
  have hdigits : d.digits < 2 ^ (d.digits.log2 + 1) := Nat.lt_log2_self
  have hpow : 2 ^ (d.digits.log2 + 1 + (1 + oneExponent)) ≤ 10 ^ (-d.exponent).toNat := by
    calc 2 ^ (d.digits.log2 + 1 + (1 + oneExponent)) ≤ 2 ^ (-d.exponent).toNat :=
          Nat.pow_le_pow_right (by decide) (by simp only [oneExponent]; omega)
      _ ≤ 10 ^ (-d.exponent).toNat := Nat.pow_le_pow_left (by decide) _
  rw [magnitude_of_neg (by omega), nearestUnits_div _ (Nat.pow_pos (by decide))]
  rw [Nat.pow_add, Nat.pow_add 2 1, Nat.pow_one, ← unitsPerOne] at hpow
  refine roundUnits_of_lt (Nat.lt_of_lt_of_le ?_ hpow)
  rw [Nat.mul_left_comm]
  exact Nat.mul_lt_mul_of_pos_right hdigits (Nat.mul_pos (by decide) unitsPerOne_pos)

theorem units_of_toBinary64? (h : d.toBinary64? = some x) :
    x.negative = d.negative ∧ x.units = nearestUnits d.magnitude := by
  unfold toBinary64? at h
  split at h
  · next hzero =>
    cases h
    have hmagnitude : d.magnitude = 0 := by rw [magnitude, hzero, Nat.cast_zero, zero_mul]
    rw [hmagnitude]
    exact ⟨rfl, (roundUnits_of_lt (by simp)).symm⟩
  · split at h
    · cases h
    · split at h
      · next hsmall =>
        cases h
        exact ⟨rfl, (nearestUnits_magnitude_of_small hsmall).symm⟩
      · split at h
        · next hnonneg =>
          rw [magnitude_of_nonneg hnonneg]
          exact units_of_ofRatio? h
        · next hneg =>
          rw [magnitude_of_neg hneg]
          exact units_of_ofRatio? h

/-- **What a decimal reads as.** -/
theorem toBinary64?_eq_some_iff :
    d.toBinary64? = some x ↔
      d.magnitude < overflowLimit ∧ x.negative = d.negative ∧
        x.units = nearestUnits d.magnitude :=
  eq_some_iff_of_units exists_toBinary64?_iff fun _ => units_of_toBinary64?

theorem toBinary64?_congr {d' : Decimal} (hnegative : d.negative = d'.negative)
    (hmagnitude : d.magnitude = d'.magnitude) : d.toBinary64? = d'.toBinary64? := by
  ext x
  rw [toBinary64?_eq_some_iff, toBinary64?_eq_some_iff, hnegative, hmagnitude]

/-- A decimal that is the number exactly reads as it. -/
theorem toBinary64?_of_magnitude_eq (hnegative : d.negative = x.negative)
    (hmagnitude : d.magnitude = x.magnitude) : d.toBinary64? = some x := by
  rw [toBinary64?_eq_some_iff, hmagnitude, nearestUnits_magnitude]
  exact ⟨x.magnitude_lt, hnegative.symm, rfl⟩

end Decimal
end Rulebook
