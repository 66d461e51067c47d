import Rulebook.Proofs.Number.ShortestText

/-!
# The plus sign of an exponent

**Theorem (`Binary64.plus_mem_text_iff`).** The text of a binary64 number has a plus sign exactly if
the magnitude of the number is at least `10 ^ 16`.

The layout goes by the shortest decimal, which may be less than the number. But they lie on the same
side of each power of ten that is itself a binary64 number: rounding keeps the order, and the
shortest decimal of a power of ten is this power (`shortest_of_magnitude_eq`).
-/

namespace Rulebook

/-! ## The first significant digit -/

namespace Decimal

variable {d : Decimal}

theorem ten_pow_significant_le (h : d.digits ≠ 0) : 10 ^ d.significant.2 ≤ d.magnitude := by
  obtain ⟨k, hk⟩ : ∃ k, (Nat.toDigits 10 d.digits).length = k + 1 :=
    Nat.exists_eq_succ_of_ne_zero (Nat.length_toDigits_pos).ne'
  have hdigits : 10 ^ k ≤ d.digits := by
    rcases k.eq_zero_or_pos with rfl | hpos
    · exact Nat.pos_of_ne_zero h
    · refine Nat.le_of_not_lt fun hlt => ?_
      have hle := (Nat.length_toDigits_le_iff (by decide) hpos).2 hlt
      omega
  have hfirst : d.significant.2 = k + d.exponent := by
    rw [significant, hk]
    simp
    omega
  rw [hfirst, zpow_add₀ (by norm_num), zpow_natCast, magnitude]
  exact mul_le_mul_of_nonneg_right (by exact_mod_cast hdigits) (by positivity)

theorem magnitude_lt_ten_pow (d : Decimal) : d.magnitude < 10 ^ (d.significant.2 + 1) := by
  have hdigits : d.digits < 10 ^ (Nat.toDigits 10 d.digits).length :=
    (Nat.length_toDigits_le_iff (by decide) Nat.length_toDigits_pos).1 le_rfl
  have hfirst : d.significant.2 + 1 = (Nat.toDigits 10 d.digits).length + d.exponent := by
    simp only [significant]
    omega
  rw [hfirst, zpow_add₀ (by norm_num), zpow_natCast, magnitude]
  exact mul_lt_mul_of_pos_right (by exact_mod_cast hdigits) (by positivity)

/-- The power of ten of the first digit is the greatest that the magnitude reaches. -/
theorem ten_pow_le_magnitude_iff (h : d.digits ≠ 0) {n : Int} :
    10 ^ n ≤ d.magnitude ↔ n ≤ d.significant.2 := by
  have hten : (1 : ℚ) < 10 := by norm_num
  constructor
  · intro hle
    have hlt := (zpow_lt_zpow_iff_right₀ hten).1 (hle.trans_lt d.magnitude_lt_ten_pow)
    omega
  · intro hle
    exact ((zpow_le_zpow_iff_right₀ hten).2 hle).trans (ten_pow_significant_le h)

/-! ## Where a plus sign stands -/

theorem plus_notMem_of_isDigit {cs : List Char} (h : ∀ c ∈ cs, c.isDigit = true) : '+' ∉ cs :=
  fun hmem => absurd (h '+' hmem) (by decide)

theorem plus_notMem_mantissaText {digits : List Char} (h : ∀ c ∈ digits, c.isDigit = true) :
    '+' ∉ mantissaText digits := by
  have hdigits := plus_notMem_of_isDigit h
  unfold mantissaText
  split <;> simp_all

theorem plus_mem_exponentText_iff {first : Int} : '+' ∈ exponentText first ↔ 0 ≤ first := by
  have hdigits := plus_notMem_of_isDigit (writesDigits_toDigits first.natAbs).isDigit
  unfold exponentText
  split
  · next hneg => simp [hdigits, hneg]
  · next hnonneg => simp [Int.not_lt.1 hnonneg]

/-- Only a great exponent is written with a plus. -/
theorem plus_mem_text_iff (h : d.digits ≠ 0) : '+' ∈ d.text ↔ 16 ≤ d.significant.2 := by
  have hleads := leadsAt_significant h
  have hsign : '+' ∉ if d.negative then ['-'] else [] := by split <;> decide
  rw [text_eq, List.mem_append, or_iff_right hsign]
  split
  · rw [List.mem_append, or_iff_right (plus_notMem_mantissaText hleads.isDigit),
      plus_mem_exponentText_iff]
    omega
  · have hpoint := plus_notMem_of_isDigit (leadsAt_aroundPoint hleads).isDigit
    rw [List.mem_append, not_or] at hpoint
    have hno : '+' ∉ pointText d.significant.1 d.significant.2 := by
      simp [pointText, hpoint]
    exact iff_of_false hno (by omega)

end Decimal

/-! ## The number and its shortest decimal -/

namespace Binary64

variable {x : Binary64} {n : Nat}

theorem nearestUnits_ten_pow (hn : 5 ^ n ≤ 2 ^ 53) :
    nearestUnits (10 ^ n) = 10 ^ n * unitsPerOne := by
  have hgrid : OnGrid (10 ^ n * unitsPerOne) := by
    refine ⟨5 ^ n, n + oneExponent, ?_, hn⟩
    rw [Nat.pow_add, ← unitsPerOne, ← Nat.mul_assoc, ← Nat.mul_pow]
  have hquot : (10 : ℚ) ^ n = (10 ^ n : Nat) / (1 : Nat) := by simp
  rw [hquot, nearestUnits_div _ Nat.one_pos, roundUnits_of_onGrid hgrid]

theorem digitCount_ten_pow (n : Nat) : digitCount (10 ^ n) = n + 1 := by
  have hle : digitCount (10 ^ n) ≤ n + 1 :=
    (Nat.length_toDigits_le_iff (by decide) n.succ_pos).2 (Nat.pow_lt_pow_succ (by decide))
  refine Nat.le_antisymm hle (Nat.lt_of_not_le fun hlt => ?_)
  have hpos : 0 < n := Nat.lt_of_lt_of_le Nat.length_toDigits_pos hlt
  exact absurd ((Nat.length_toDigits_le_iff (by decide) hpos).1 hlt) (Nat.lt_irrefl _)

/-- The shortest decimal of a power of ten is this power: it stands on the first grid. -/
theorem shortest_of_magnitude_eq (h : x.magnitude = 10 ^ n) :
    x.shortest = ⟨x.negative, 1, n⟩ := by
  have hunits : x.units = unitsPerOne * 10 ^ n := by
    rw [magnitude, div_eq_iff (Nat.cast_ne_zero.2 unitsPerOne_pos.ne')] at h
    rw [Nat.mul_comm]
    exact_mod_cast h
  have hden : 0 < unitsPerOne * 10 ^ n := Nat.mul_pos unitsPerOne_pos (Nat.pow_pos (by decide))
  have hfirst : x.leadingExponent = n := by
    have hwhole : x.units / unitsPerOne = 10 ^ n := by
      rw [hunits, Nat.mul_div_cancel_left _ unitsPerOne_pos]
    simp only [leadingExponent, hwhole]
    rw [if_pos (Nat.pow_pos (by decide)), digitCount_ten_pow]
    simp
  have hback : x.readsBack 1 n = true :=
    readsBack_iff.2 (Decimal.toBinary64?_of_magnitude_eq rfl (by simp [Decimal.magnitude, h]))
  have hgrid : x.onDecimalGrid? n = some 1 := by
    have hscaled : x.scaledBy n = (unitsPerOne * 10 ^ n, unitsPerOne * 10 ^ n) := by
      rw [scaledBy, if_pos (Int.natCast_nonneg n), hunits, Int.toNat_natCast]
    have hround := roundHalfEven_mul 1 hden
    rw [Nat.one_mul] at hround
    simp only [onDecimalGrid?, hscaled, Nat.div_self hden, hback, hround]
    cases x.readsBack (1 + 1) n <;> rfl
  simp [shortest, hfirst, hgrid, List.range_succ_eq_map]

/-- The number and its shortest decimal lie on the same side of a power of ten. -/
theorem ten_pow_le_magnitude_shortest_iff (hn : 5 ^ n ≤ 2 ^ 53) :
    10 ^ n ≤ x.shortest.magnitude ↔ 10 ^ n ≤ x.magnitude := by
  have hunits := (Decimal.units_of_toBinary64? x.toBinary64?_shortest).2
  have hpos : (0 : ℚ) < unitsPerOne := Nat.cast_pos.2 unitsPerOne_pos
  rw [magnitude, le_div_iff₀ hpos]
  constructor
  · intro hle
    have hmono := nearestUnits_mono (by positivity) hle
    rw [nearestUnits_ten_pow hn, ← hunits] at hmono
    exact_mod_cast hmono
  · intro hle
    by_contra hlt
    have hnonneg : 0 ≤ x.shortest.magnitude :=
      mul_nonneg (Nat.cast_nonneg _) (zpow_nonneg (by norm_num) _)
    have hmono := nearestUnits_mono hnonneg (not_le.1 hlt).le
    rw [nearestUnits_ten_pow hn, ← hunits] at hmono
    have heq : (x.units : ℚ) = 10 ^ n * unitsPerOne :=
      le_antisymm (by exact_mod_cast hmono) hle
    have hmagnitude : x.magnitude = 10 ^ n := by
      rw [magnitude, heq, mul_div_cancel_right₀ _ hpos.ne']
    refine hlt ?_
    rw [shortest_of_magnitude_eq hmagnitude]
    simp [Decimal.magnitude]

/-- **A plus sign is written from `10 ^ 16` on.** -/
theorem plus_mem_text_iff (x : Binary64) : '+' ∈ x.text ↔ 10 ^ 16 ≤ x.magnitude := by
  unfold text
  split
  · next hzero =>
    have hmagnitude : x.magnitude = 0 := by rw [magnitude, hzero, Nat.cast_zero, zero_div]
    rw [hmagnitude]
    refine iff_of_false ?_ (by norm_num)
    split <;> decide
  · next hne =>
    have hdigits := digits_shortest_ne_zero hne
    rw [Decimal.plus_mem_text_iff hdigits, ← Decimal.ten_pow_le_magnitude_iff hdigits,
      ← ten_pow_le_magnitude_shortest_iff (by decide)]
    norm_num

end Binary64
end Rulebook
