import Rulebook.Json.Numbers
import Rulebook.Number.Numeral
import Rulebook.Proofs.Number.Arithmetic

/-!
# What the numbers of a JSON text are read as

**Theorem (`number?_whole`).** A whole number of 64 bits, written without point and exponent, is
read as it is.

**Theorem (`real?_eq_toBinary64?`).** Any other number is read as the nearest binary64 number, as it
is where the text of a string is read, if its digits make a number up to `2 ^ 53` and are multiplied
or divided by `10 ^ 22` at most. Both the digits and the power of ten are then binary64 numbers, and
only their product or quotient is rounded. Past these bounds a neighbour of the nearest number may
be read.

**Theorem (`exists_real?`).** Only a number that is multiplied by a power of ten can be out of
range, since every step of a division makes the number smaller.
-/

namespace Rulebook.Json

open Binary64

/-! ## Digits -/

theorem le_ofDigitChars (cs : List Char) (n : Nat) : n ≤ Nat.ofDigitChars 10 cs n := by
  induction cs generalizing n with
  | nil => exact Nat.le_refl n
  | cons c rest ih =>
    rw [Nat.ofDigitChars_cons]
    exact Nat.le_trans (by omega) (ih _)

namespace Significand

/-- All digits are put after a number if 64 bits hold the result. -/
theorem pushAll_of_lt {s : Significand} {cs : List Char}
    (h : Nat.ofDigitChars 10 cs s.value < 2 ^ 64) :
    ∃ t : Significand, s.pushAll cs = (t, 0) ∧ t.value = Nat.ofDigitChars 10 cs s.value := by
  induction cs generalizing s with
  | nil => exact ⟨s, rfl, rfl⟩
  | cons c rest ih =>
    rw [Nat.ofDigitChars_cons] at h ⊢
    have hle := le_ofDigitChars rest (10 * s.value + (c.toNat - '0'.toNat))
    obtain ⟨t, hpush, ht⟩ := push?_of_lt (Nat.lt_of_le_of_lt hle h)
    rw [← ht] at h ⊢
    rw [pushAll, hpush, Option.elim_some]
    exact ih h

end Significand

namespace NumberText

variable {n : NumberText}

/-- The number as it is written. -/
def decimal (n : NumberText) : Decimal :=
  .ofDigits n.negative n.whole (n.fraction.getD []) (n.exponent.getD 0)

theorem digits_decimal (n : NumberText) :
    n.decimal.digits = Nat.ofDigitChars 10 (n.fraction.getD []) (digitsValue n.whole) :=
  Nat.ofDigitChars_append _

/-- All digits count if 64 bits hold the number that they make. -/
theorem significand_of_lt (h : n.decimal.digits < 2 ^ 64) :
    ∃ s : Significand, n.significand = (s, n.decimal.exponent) ∧ s.value = n.decimal.digits := by
  rw [digits_decimal] at h ⊢
  have hwhole : Nat.ofDigitChars 10 n.whole Significand.zero.value < 2 ^ 64 :=
    Nat.lt_of_le_of_lt (le_ofDigitChars _ _) h
  obtain ⟨s, hs, hvalue⟩ := Significand.pushAll_of_lt hwhole
  have hvalue' : s.value = digitsValue n.whole := hvalue
  rw [← hvalue'] at h ⊢
  obtain ⟨t, ht, hresult⟩ := Significand.pushAll_of_lt h
  refine ⟨t, ?_, hresult⟩
  simp only [significand, hs, ht, decimal, Decimal.ofDigits]
  congr 1
  omega

end NumberText

/-! ## Powers of ten -/

theorem cast_div_one (n : Nat) : ((10 ^ n : Nat) / (1 : Nat) : ℚ) = 10 ^ n := by
  rw [Nat.cast_one, div_one, Nat.cast_pow, Nat.cast_ofNat]

theorem exists_tenPower? {n : Nat} (h : n ≤ 308) :
    ∃ p, tenPower? n = some p ∧ p.negative = false ∧ p.units = nearestUnits (10 ^ n) := by
  have hlimit : 10 ^ 308 < overflowLimit := by decide +kernel
  have hrange : ((10 ^ n : Nat) / (1 : Nat) : ℚ) < overflowLimit := by
    rw [Nat.cast_one, div_one, Nat.cast_lt]
    exact Nat.lt_of_le_of_lt (Nat.pow_le_pow_right (by decide) h) hlimit
  obtain ⟨p, hp⟩ := exists_ofRatio?_iff.2 hrange
  obtain ⟨hnegative, hunits⟩ := units_of_ofRatio? hp
  exact ⟨p, hp, hnegative, cast_div_one n ▸ hunits⟩

/-- Powers of ten up to `10 ^ 22` are binary64 numbers, as those of five are less than `2 ^ 53`. -/
theorem nearestUnits_tenPower {n : Nat} (h : n ≤ 22) :
    nearestUnits (10 ^ n) = 10 ^ n * unitsPerOne := by
  have hgrid : OnGrid (10 ^ n * unitsPerOne) := by
    refine ⟨5 ^ n, n + oneExponent, ?_, ?_⟩
    · rw [Nat.pow_add, ← Nat.mul_assoc, ← Nat.mul_pow, unitsPerOne]
    · exact Nat.le_trans (Nat.pow_le_pow_right (by decide) h) (by decide)
  rw [← cast_div_one, nearestUnits_div _ Nat.one_pos, roundUnits_of_onGrid hgrid]

theorem exists_tenPower?_exact {n : Nat} (h : n ≤ 22) :
    ∃ p, tenPower? n = some p ∧ p.negative = false ∧ p.magnitude = 10 ^ n := by
  obtain ⟨p, hp, hnegative, hunits⟩ := exists_tenPower? (Nat.le_trans h (by decide))
  refine ⟨p, hp, hnegative, ?_⟩
  rw [magnitude_of_units (hunits.trans (nearestUnits_tenPower h)), Nat.cast_pow, Nat.cast_ofNat]

theorem exists_tenPower?_of_le {n : Nat} (h : n ≤ 308) :
    ∃ p, tenPower? n = some p ∧ 1 ≤ p.magnitude := by
  obtain ⟨p, hp, -, hunits⟩ := exists_tenPower? h
  refine ⟨p, hp, ?_⟩
  rw [magnitude, le_div_iff₀ (Nat.cast_pos.2 unitsPerOne_pos), one_mul, Nat.cast_le, hunits]
  calc unitsPerOne = nearestUnits (10 ^ 0) := by
        rw [nearestUnits_tenPower (Nat.zero_le _), Nat.pow_zero, Nat.one_mul]
    _ ≤ nearestUnits (10 ^ n) :=
      nearestUnits_mono (by norm_num) (pow_le_pow_right₀ (by norm_num) (Nat.zero_le n))

/-! ## Scaling -/

/-- **A division by powers of ten** makes a number smaller and is never out of range. -/
theorem exists_scaleDown? (x : Binary64) (n : Nat) :
    ∃ y, scaleDown? x n = some y ∧ y.units ≤ x.units := by
  fun_induction scaleDown? x n with
  | case1 x n hn =>
    obtain ⟨p, hp, hmagnitude⟩ := exists_tenPower?_of_le hn
    rw [hp, Option.bind_some]
    exact exists_div? x hmagnitude
  | case2 x n hn hzero => exact ⟨x, rfl, Nat.le_refl _⟩
  | case3 x n hn hzero ih =>
    obtain ⟨p, hp, hmagnitude⟩ := exists_tenPower?_of_le (Nat.le_refl 308)
    obtain ⟨y, hy, hle⟩ := exists_div? x hmagnitude
    obtain ⟨z, hz, hle'⟩ := ih y
    rw [hp, Option.bind_some, hy, Option.bind_some]
    exact ⟨z, hz, Nat.le_trans hle' hle⟩

/-- Where the power of ten is exact, the product or the quotient is rounded once. -/
theorem scale?_eq_some_iff {x y : Binary64} {exponent : Int} (h : exponent.natAbs ≤ 22) :
    scale? x exponent = some y ↔
      x.magnitude * 10 ^ exponent < overflowLimit ∧ y.negative = x.negative ∧
        y.units = nearestUnits (x.magnitude * 10 ^ exponent) := by
  unfold scale?
  -- On either side the power is in the table, so that one step is taken.
  split
  · next hnonneg =>
    obtain ⟨k, rfl⟩ := Int.eq_ofNat_of_zero_le hnonneg
    have hk : k ≤ 22 := h
    obtain ⟨p, hp, hnegative, hmagnitude⟩ := exists_tenPower?_exact hk
    rw [Int.toNat_natCast, scaleUp?, if_pos (by omega), hp, Option.bind_some, mul?_eq_some_iff,
      hnegative, hmagnitude, Bool.bne_false, zpow_natCast]
  · next hneg =>
    obtain ⟨k, hk⟩ := Int.eq_ofNat_of_zero_le (show 0 ≤ -exponent by omega)
    obtain rfl : exponent = -(k : Int) := by omega
    obtain ⟨p, hp, hnegative, hmagnitude⟩ := exists_tenPower?_exact (show k ≤ 22 by omega)
    have hpos : 0 < p.magnitude := by
      rw [hmagnitude]
      positivity
    rw [Int.neg_neg, Int.toNat_natCast, scaleDown?, if_pos (by omega), hp, Option.bind_some,
      div?_eq_some_iff hpos, hnegative, hmagnitude, Bool.bne_false, zpow_neg, zpow_natCast,
      ← div_eq_mul_inv]

theorem scale?_zero (x : Binary64) : scale? x 0 = some x := by
  rw [scale?_eq_some_iff (by decide), zpow_zero, mul_one, nearestUnits_magnitude]
  exact ⟨x.magnitude_lt, rfl, rfl⟩

theorem exists_scale? (x : Binary64) {exponent : Int} (h : exponent ≤ 0) :
    ∃ y, scale? x exponent = some y := by
  rcases Int.lt_or_eq_of_le h with hneg | rfl
  · obtain ⟨y, hy, -⟩ := exists_scaleDown? x (-exponent).toNat
    exact ⟨y, by rw [scale?, if_neg (Int.not_le.2 hneg), hy]⟩
  · exact ⟨x, scale?_zero x⟩

/-! ## Numbers as written -/

namespace Significand

/-- A whole number up to `2 ^ 53` is not rounded. -/
theorem magnitude_toBinary64 {s : Significand} (h : s.value ≤ 2 ^ 53) :
    s.toBinary64.magnitude = s.value :=
  magnitude_of_units (roundUnits_of_onGrid (onGrid_of_le h))

theorem negative_toBinary64 (s : Significand) : s.toBinary64.negative = false :=
  decide_eq_false (Int.not_lt.2 (Int.natCast_nonneg s.value))

end Significand

namespace NumberText

variable {n : NumberText}

theorem real?_eq_some_iff {x : Binary64} :
    n.real? = some x ↔
      ∃ y, scale? n.significand.1.toBinary64 n.significand.2 = some y ∧
        x.negative = n.negative ∧ x.units = y.units := by
  rw [real?, Option.map_eq_some_iff]
  constructor
  · rintro ⟨y, hy, rfl⟩
    exact ⟨y, hy, rfl, rfl⟩
  · rintro ⟨y, hy, hnegative, hunits⟩
    exact ⟨y, hy, eq_of_units_eq hnegative.symm hunits.symm⟩

/-- **A number with few digits is read as the nearest one**, as in the text of a string. -/
theorem real?_eq_toBinary64? (hdigits : n.decimal.digits ≤ 2 ^ 53)
    (hexponent : n.decimal.exponent.natAbs ≤ 22) : n.real? = n.decimal.toBinary64? := by
  obtain ⟨s, hs, hvalue⟩ := significand_of_lt (Nat.lt_of_le_of_lt hdigits (by decide))
  rw [← hvalue] at hdigits
  have hmagnitude : s.toBinary64.magnitude * 10 ^ n.decimal.exponent = n.decimal.magnitude := by
    rw [Significand.magnitude_toBinary64 hdigits, hvalue, Decimal.magnitude]
  ext x
  rw [real?_eq_some_iff, hs, Decimal.toBinary64?_eq_some_iff, ← hmagnitude]
  constructor
  · rintro ⟨y, hy, hnegative, hunits⟩
    obtain ⟨hrange, -, hy⟩ := (scale?_eq_some_iff hexponent).1 hy
    exact ⟨hrange, hnegative, hunits.trans hy⟩
  · rintro ⟨hrange, hnegative, hunits⟩
    have hy : scale? s.toBinary64 n.decimal.exponent = some { x with negative := false } :=
      (scale?_eq_some_iff hexponent).2 ⟨hrange, s.negative_toBinary64.symm, hunits⟩
    exact ⟨_, hy, hnegative, rfl⟩

-- Here the digits make a number past the bound, and a neighbour of the nearest number is read.
example :
    (real? ⟨false, "9007199254740993".toList, some ['0'], none⟩).map Binary64.units =
        some (9007199254740994 * unitsPerOne) ∧
      (decimal ⟨false, "9007199254740993".toList, some ['0'], none⟩).toBinary64?.map units =
        some (9007199254740992 * unitsPerOne) := by decide +kernel

/-- **Without a power of ten to multiply by**, a number is in range. -/
theorem exists_real? (h : n.significand.2 ≤ 0) : ∃ x, n.real? = some x := by
  obtain ⟨y, hy⟩ := exists_scale? n.significand.1.toBinary64 h
  exact ⟨{ y with negative := n.negative }, real?_eq_some_iff.2 ⟨y, hy, rfl, rfl⟩⟩

/-- **A whole number of 64 bits is read as it is.** -/
theorem number?_whole {i : Int} (range : -(2 ^ 63) ≤ i ∧ i < 2 ^ 64) (hfraction : n.fraction = none)
    (hexponent : n.exponent = none)
    (hi : i = if n.negative then -(digitsValue n.whole : Int) else digitsValue n.whole)
    (hzero : n.negative = true → i ≠ 0) : n.number? = some (.whole i range) := by
  have hdecimal : n.decimal = ⟨n.negative, digitsValue n.whole, 0⟩ := by
    simp [decimal, hfraction, hexponent, Decimal.ofDigits]
  have hdigits : digitsValue n.whole < 2 ^ 64 := by
    split at hi <;> omega
  obtain ⟨s, hs, hvalue⟩ : ∃ s : Significand, n.significand = (s, 0) ∧
      s.value = digitsValue n.whole := by
    have h := significand_of_lt (n := n) (by rwa [hdecimal])
    rwa [hdecimal] at h
  rw [← hvalue] at hi
  have hint : Number.ofInt? i = some (.whole i range) := dif_pos range
  have hkept : ¬(n.negative = true ∧ s.value = 0) := by
    rintro ⟨hnegative, hvalue⟩
    exact hzero hnegative (by rw [hi, if_pos hnegative, hvalue]; rfl)
  have hwhole : n.whole? = some (.whole i range) := by
    simp only [whole?, hs, hfraction, hexponent, ← hi, hint]
    exact if_neg (by simpa using hkept)
  rw [number?, hwhole]
  rfl

end NumberText
end Rulebook.Json
