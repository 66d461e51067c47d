/-!
# Finite binary64 numbers, exactly

A finite binary64 number is a whole multiple of `2 ^ -1074`, the least positive one. Counted in
these *units* its magnitude is a natural number whose leading 53 bits hold everything and which
stays below `2 ^ 2098`; order, truncation and rounding are then arithmetic on whole numbers.

Rounding is to the nearest number of the grid, a half going to the even neighbour
(`roundUnits`). It always lands on the grid (`onGrid_roundUnits`) and never leaves the binary
octave by more than its upper end (`roundUnits_le`), so a whole number of 64 bits has a rounded
value (`ofWhole`).
-/

namespace Rulebook

-- Powers of whole numbers are the ones that the core library computes, whatever else is imported.
attribute [instance (20000), default_instance (20000)] instPowNat

/-- The quotient rounded to the nearest whole number, a half to the even one. -/
def roundHalfEven (num den : Nat) : Nat :=
  if 2 * (num % den) < den then num / den
  else if den < 2 * (num % den) then num / den + 1
  else if num / den % 2 = 0 then num / den
  else num / den + 1

theorem roundHalfEven_le {num den b : Nat} (hden : 0 < den) (h : num ≤ b * den) :
    roundHalfEven num den ≤ b := by
  have hq : num / den ≤ b := Nat.div_le_of_le_mul (by rwa [Nat.mul_comm])
  by_cases hb : num / den = b
  · have hr : num % den = 0 := by
      have := Nat.div_add_mod num den
      rw [hb, Nat.mul_comm] at this
      omega
    simp [roundHalfEven, hr, hden, hq]
  · simp only [roundHalfEven]
    split
    · exact hq
    · split
      · omega
      · split <;> omega

/-- The significant bits of a magnitude are among its leading 53. -/
def OnGrid (units : Nat) : Prop := ∃ m k, units = m * 2 ^ k ∧ m ≤ 2 ^ 53

/-- `num / den`, both counted in units, rounded to the nearest number of the grid. -/
def roundUnits (num den : Nat) : Nat :=
  let dropped := (num / den).log2 - 52
  roundHalfEven num (den * 2 ^ dropped) * 2 ^ dropped

theorem roundHalfEven_dropped_le {num den : Nat} (hden : 0 < den) :
    roundHalfEven num (den * 2 ^ ((num / den).log2 - 52)) ≤ 2 ^ 53 := by
  refine roundHalfEven_le (Nat.mul_pos hden (Nat.two_pow_pos _)) ?_
  have hlog : num / den < 2 ^ ((num / den).log2 + 1) := Nat.lt_log2_self
  have hexp : (num / den).log2 + 1 ≤ 53 + ((num / den).log2 - 52) := by omega
  have hpow := Nat.pow_le_pow_right (by decide : 0 < 2) hexp
  have hnum : num < den * (num / den + 1) := Nat.lt_mul_div_succ num hden
  calc num ≤ den * (num / den + 1) := Nat.le_of_lt hnum
    _ ≤ den * 2 ^ (53 + ((num / den).log2 - 52)) := Nat.mul_le_mul_left _ (by omega)
    _ = 2 ^ 53 * (den * 2 ^ ((num / den).log2 - 52)) := by
      rw [Nat.pow_add, Nat.mul_left_comm]

theorem onGrid_roundUnits {num den : Nat} (hden : 0 < den) : OnGrid (roundUnits num den) :=
  ⟨_, _, rfl, roundHalfEven_dropped_le hden⟩

theorem roundUnits_le {num den : Nat} (hden : 0 < den) :
    roundUnits num den ≤ 2 ^ (53 + ((num / den).log2 - 52)) := by
  rw [Nat.pow_add]
  exact Nat.mul_le_mul_right _ (roundHalfEven_dropped_le hden)

/-- Magnitudes stay below this power of two, counted in units. -/
def topExponent : Nat := 2098

/-- One is this power of two, counted in units. -/
def oneExponent : Nat := 1074

/-- A finite binary64 number: a sign, which zero has too, and a magnitude in units. -/
structure Binary64 where
  negative : Bool
  units : Nat
  onGrid : OnGrid units
  inRange : units < 2 ^ topExponent

namespace Binary64

/-- How many units make one. -/
def unitsPerOne : Nat := 2 ^ oneExponent

/-- The number as a signed count of units; both zeros have the count zero. -/
def scaled (x : Binary64) : Int := if x.negative then -(x.units : Int) else x.units

/-- Equality of the numbers denoted, so that the two zeros are equal. -/
def numEq (x y : Binary64) : Bool := x.scaled == y.scaled

/-- The order of the numbers denoted. -/
def numLe (x y : Binary64) : Bool := decide (x.scaled ≤ y.scaled)

/-- The strict order of the numbers denoted. -/
def numLt (x y : Binary64) : Bool := decide (x.scaled < y.scaled)

/-- Zero with a sign. -/
def zero (negative : Bool) : Binary64 where
  negative
  units := 0
  onGrid := ⟨0, 0, rfl, by decide⟩
  inRange := Nat.two_pow_pos _

/-- The nearest binary64 number to `± num / den`, if its magnitude is in range. -/
def ofRatio? (negative : Bool) (num den : Nat) (hden : 0 < den) : Option Binary64 :=
  if h : roundUnits (num * unitsPerOne) den < 2 ^ topExponent then
    some ⟨negative, _, onGrid_roundUnits hden, h⟩
  else none

/-- The nearest binary64 number to the product, if its magnitude is in range. -/
def mul? (x y : Binary64) : Option Binary64 :=
  ofRatio? (x.negative != y.negative) (x.units * y.units) (unitsPerOne * unitsPerOne)
    (Nat.mul_pos (Nat.two_pow_pos _) (Nat.two_pow_pos _))

/-- The nearest binary64 number to the quotient, if its magnitude is in range. -/
def div? (x y : Binary64) : Option Binary64 :=
  if h : 0 < y.units then ofRatio? (x.negative != y.negative) x.units y.units h else none

theorem roundUnits_whole_lt {n : Nat} (h : n < 2 ^ 64) :
    roundUnits (n * unitsPerOne) 1 < 2 ^ topExponent := by
  refine Nat.lt_of_le_of_lt (roundUnits_le Nat.one_pos) ?_
  refine Nat.pow_lt_pow_right (by decide) ?_
  rw [Nat.div_one]
  by_cases h0 : n * unitsPerOne = 0
  · simp [h0, topExponent]
  · have hlt : n * unitsPerOne < 2 ^ (64 + oneExponent) := by
      rw [Nat.pow_add]
      exact (Nat.mul_lt_mul_right (Nat.two_pow_pos _)).2 h
    have := (Nat.log2_lt h0).2 hlt
    simp only [oneExponent, topExponent] at *
    omega

/-- The nearest binary64 number to a whole number of at most 64 bits. -/
def ofWhole (i : Int) (h : i.natAbs < 2 ^ 64) : Binary64 where
  negative := decide (i < 0)
  units := roundUnits (i.natAbs * unitsPerOne) 1
  onGrid := onGrid_roundUnits Nat.one_pos
  inRange := roundUnits_whole_lt h

/-- The whole part, toward zero. -/
def truncate (x : Binary64) : Int :=
  if x.negative then -((x.units / unitsPerOne : Nat) : Int) else (x.units / unitsPerOne : Nat)

end Binary64
end Rulebook
