import Rulebook.Proofs.Number.DecimalValue

/-!
# Products and quotients of binary64 numbers

A product is the exact one, rounded once, and so is a quotient: its sign follows from the two signs,
and it is there if the exact one is in range (`mul?_eq_some_iff`, `div?_eq_some_iff`). A quotient by
a number that is at least one is not greater than what is divided, so that it is always in range
(`exists_div?`).
-/

namespace Rulebook.Binary64

variable {x y z : Binary64}

theorem magnitude_nonneg (x : Binary64) : 0 ≤ x.magnitude :=
  div_nonneg (Nat.cast_nonneg _) (Nat.cast_nonneg _)

theorem units_pos (h : 0 < x.magnitude) : 0 < x.units := by
  refine Nat.pos_of_ne_zero fun hzero => h.ne' ?_
  rw [magnitude, hzero, Nat.cast_zero, zero_div]

theorem magnitude_of_units {n : Nat} (h : x.units = n * unitsPerOne) : x.magnitude = n := by
  have hone : (unitsPerOne : ℚ) ≠ 0 := Nat.cast_ne_zero.2 unitsPerOne_pos.ne'
  rw [magnitude, h, Nat.cast_mul, mul_div_cancel_right₀ _ hone]

theorem units_mul_units (x y : Binary64) :
    ((x.units * y.units : Nat) / (unitsPerOne * unitsPerOne : Nat) : ℚ) =
      x.magnitude * y.magnitude := by
  rw [magnitude, magnitude, div_mul_div_comm, Nat.cast_mul, Nat.cast_mul]

theorem units_div_units (x y : Binary64) : (x.units / y.units : ℚ) = x.magnitude / y.magnitude := by
  have hone : (unitsPerOne : ℚ) ≠ 0 := Nat.cast_ne_zero.2 unitsPerOne_pos.ne'
  rw [magnitude, magnitude, div_div_div_cancel_right₀ hone]

/-- **A product is rounded once.** -/
theorem mul?_eq_some_iff :
    x.mul? y = some z ↔
      x.magnitude * y.magnitude < overflowLimit ∧ z.negative = (x.negative != y.negative) ∧
        z.units = nearestUnits (x.magnitude * y.magnitude) := by
  rw [mul?, ofRatio?_eq_some_iff, units_mul_units]

theorem exists_div?_iff (hy : 0 < y.magnitude) :
    (∃ z, x.div? y = some z) ↔ x.magnitude / y.magnitude < overflowLimit := by
  rw [div?, dif_pos (units_pos hy), exists_ofRatio?_iff, units_div_units]

/-- **A quotient is rounded once.** -/
theorem div?_eq_some_iff (hy : 0 < y.magnitude) :
    x.div? y = some z ↔
      x.magnitude / y.magnitude < overflowLimit ∧ z.negative = (x.negative != y.negative) ∧
        z.units = nearestUnits (x.magnitude / y.magnitude) := by
  rw [div?, dif_pos (units_pos hy), ofRatio?_eq_some_iff, units_div_units]

/-- **Dividing by what is at least one** stays in range. -/
theorem exists_div? (x : Binary64) (hy : 1 ≤ y.magnitude) :
    ∃ z, x.div? y = some z ∧ z.units ≤ x.units := by
  have hpos : 0 < y.magnitude := lt_of_lt_of_le one_pos hy
  have hle : x.magnitude / y.magnitude ≤ x.magnitude := div_le_self x.magnitude_nonneg hy
  obtain ⟨z, hz⟩ := (exists_div?_iff hpos).2 (hle.trans_lt x.magnitude_lt)
  refine ⟨z, hz, ?_⟩
  rw [((div?_eq_some_iff hpos).1 hz).2.2, ← x.nearestUnits_magnitude]
  exact nearestUnits_mono (div_nonneg x.magnitude_nonneg hpos.le) hle

end Rulebook.Binary64
