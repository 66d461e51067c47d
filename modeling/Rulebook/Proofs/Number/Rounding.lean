import Mathlib.Data.Nat.Log
import Mathlib.Tactic.Linarith
import Rulebook.Number.Binary64

/-!
# Rounding keeps the order

`NearestEven num den r` says that `r` is a whole number nearest to `num / den`, and that it is even
where two are nearest. Such numbers are in the order of the quotients (`NearestEven.le`): were they
not, both quotients would lie half-way between the same two whole numbers, and both would go to the
even one. Quotients are compared by their cross products.

**Theorem (`roundUnits_mono`).** Rounding to the grid of binary64 numbers keeps the order of
quotients. Within an octave this is the fact about whole numbers; from one octave to a higher one,
what is rounded stays on its side of the power of two between them.

What lies on the grid is not moved (`roundUnits_of_onGrid`), so that whole numbers up to `2 ^ 53`
are kept (`Binary64.scaled_ofWhole`) and greater ones are rounded to whole numbers again
(`Binary64.exists_wholeUnits_eq`). What is rounded is out of range just from half a step past the
greatest binary64 number (`roundUnits_lt_iff`).
-/

namespace Rulebook

/-! ## Nearest whole numbers -/

/-- The whole number is nearest to `num / den`, and even if another one is as near. -/
structure NearestEven (num den r : Nat) : Prop where
  near : 2 * ((num : Int) - (r * den : Nat)).natAbs ≤ den
  even_of_tie : 2 * ((num : Int) - (r * den : Nat)).natAbs = den → r % 2 = 0

section

variable {num den r : Nat} (h : NearestEven num den r)
include h

theorem NearestEven.not_above : 2 * (r * den) ≤ 2 * num + den := by
  have hnear := h.near
  omega

theorem NearestEven.not_below : 2 * num ≤ 2 * (r * den) + den := by
  have hnear := h.near
  omega

end

theorem nearestEven_roundHalfEven {num den : Nat} (hden : 0 < den) :
    NearestEven num den (roundHalfEven num den) := by
  have hdiv : num / den * den + num % den = num := Nat.div_add_mod' num den
  have hmod : num % den < den := Nat.mod_lt num hden
  have hnext : (num / den + 1) * den = num / den * den + den := Nat.succ_mul _ _
  unfold roundHalfEven
  split
  · constructor <;> omega
  · split
    · constructor <;> rw [hnext] <;> omega
    · split
      · constructor <;> omega
      · constructor <;> rw [hnext] <;> omega

/-- If the lesser of two quotients is at least a number and the greater at most, they are it. -/
theorem eq_of_quotients_le {a b c d m : Nat} (hb : 0 < b) (hd : 0 < d) (ha : m * b ≤ a)
    (hc : c ≤ m * d) (hle : a * d ≤ c * b) : a = m * b ∧ c = m * d := by
  have hmid : m * b * d = m * d * b := Nat.mul_right_comm m b d
  have hfirst : m * b * d ≤ a * d := Nat.mul_le_mul_right d ha
  have hlast : c * b ≤ m * d * b := Nat.mul_le_mul_right b hc
  constructor
  · exact Nat.le_antisymm (Nat.le_of_mul_le_mul_right (by omega) hd) ha
  · exact Nat.le_antisymm hc (Nat.le_of_mul_le_mul_right (by omega) hb)

/-- **Nearest whole numbers are in the order of the quotients.** -/
theorem NearestEven.le {num den num' den' r r' : Nat} (h : NearestEven num den r)
    (h' : NearestEven num' den' r') (hden : 0 < den) (hden' : 0 < den')
    (hle : num * den' ≤ num' * den) : r ≤ r' := by
  have habove := h.not_above
  have hbelow := h'.not_below
  refine Nat.le_of_not_lt fun hlt => ?_
  -- Otherwise `r' + 1 / 2` lies between the quotients, which are in order, so both are equal to it.
  have hhalf (d : Nat) : (2 * r' + 1) * d = 2 * (r' * d) + d := by
    rw [Nat.succ_mul, Nat.mul_assoc]
  have hstep : r' * den + den ≤ r * den := by
    rw [← Nat.succ_mul]
    exact Nat.mul_le_mul_right den hlt
  obtain ⟨hnum, hnum'⟩ : 2 * num = (2 * r' + 1) * den ∧ 2 * num' = (2 * r' + 1) * den' := by
    refine eq_of_quotients_le hden hden' ?_ ?_ ?_
    · rw [hhalf]
      omega
    · rwa [hhalf]
    · rw [Nat.mul_assoc, Nat.mul_assoc]
      exact Nat.mul_le_mul_left 2 hle
  rw [hhalf] at hnum hnum'
  have heven' : r' % 2 = 0 := h'.even_of_tie (by omega)
  have heven : r % 2 = 0 := h.even_of_tie (by omega)
  have hnext : r = r' + 1 := by
    refine Nat.le_antisymm (Nat.le_of_mul_le_mul_right ?_ hden) hlt
    rw [Nat.succ_mul]
    omega
  omega

theorem roundHalfEven_mono {num den num' den' : Nat} (hden : 0 < den) (hden' : 0 < den')
    (h : num * den' ≤ num' * den) : roundHalfEven num den ≤ roundHalfEven num' den' :=
  (nearestEven_roundHalfEven hden).le (nearestEven_roundHalfEven hden') hden hden' h

theorem roundHalfEven_mul {den : Nat} (n : Nat) (hden : 0 < den) :
    roundHalfEven (n * den) den = n := by
  simp [roundHalfEven, hden, Nat.mul_div_cancel n hden]

theorem le_roundHalfEven {num den n : Nat} (hden : 0 < den) (h : n * den ≤ num) :
    n ≤ roundHalfEven num den := by
  rw [← roundHalfEven_mul n hden]
  exact roundHalfEven_mono hden hden (Nat.mul_le_mul_right den h)

/-! ## The grid -/

theorem two_pow_log2_le_roundUnits {num den : Nat} (hden : 0 < den)
    (h : 52 < (num / den).log2) : 2 ^ (num / den).log2 ≤ roundUnits num den := by
  have hne : num / den ≠ 0 := by
    intro h0
    simp [h0] at h
  have hsplit : (num / den).log2 = 52 + ((num / den).log2 - 52) := by omega
  have hnum : 2 ^ (num / den).log2 * den ≤ num :=
    (Nat.le_div_iff_mul_le hden).1 (Nat.log2_self_le hne)
  unfold roundUnits
  generalize (num / den).log2 - 52 = e at hsplit ⊢
  rw [hsplit, Nat.pow_add] at hnum ⊢
  refine Nat.mul_le_mul_right _ (le_roundHalfEven (Nat.mul_pos hden (Nat.two_pow_pos e)) ?_)
  rwa [Nat.mul_comm den, ← Nat.mul_assoc]

theorem div_le_div_of_cross {num den num' den' : Nat} (hden : 0 < den) (hden' : 0 < den')
    (h : num * den' ≤ num' * den) : num / den ≤ num' / den' := by
  refine (Nat.le_div_iff_mul_le hden').2 (Nat.le_of_mul_le_mul_right ?_ hden)
  calc num / den * den' * den = num / den * den * den' := Nat.mul_right_comm _ _ _
    _ ≤ num * den' := Nat.mul_le_mul_right den' (Nat.div_mul_le_self num den)
    _ ≤ num' * den := h

theorem log2_le_log2 {m n : Nat} (h : m ≤ n) : m.log2 ≤ n.log2 := by
  rw [Nat.log2_eq_log_two, Nat.log2_eq_log_two]
  exact Nat.log_mono_right h

/-- **Rounding keeps the order.** -/
theorem roundUnits_mono {num den num' den' : Nat} (hden : 0 < den) (hden' : 0 < den')
    (h : num * den' ≤ num' * den) : roundUnits num den ≤ roundUnits num' den' := by
  have hlog : (num / den).log2 ≤ (num' / den').log2 :=
    log2_le_log2 (div_le_div_of_cross hden hden' h)
  by_cases hdropped : (num / den).log2 - 52 = (num' / den').log2 - 52
  · unfold roundUnits
    rw [hdropped]
    generalize (num' / den').log2 - 52 = e
    have he := Nat.two_pow_pos e
    refine Nat.mul_le_mul_right _ (roundHalfEven_mono (Nat.mul_pos hden he)
      (Nat.mul_pos hden' he) ?_)
    rw [← Nat.mul_assoc, ← Nat.mul_assoc]
    exact Nat.mul_le_mul_right _ h
  · calc roundUnits num den ≤ 2 ^ (53 + ((num / den).log2 - 52)) := roundUnits_le hden
      _ ≤ 2 ^ (num' / den').log2 := Nat.pow_le_pow_right (by decide) (by omega)
      _ ≤ roundUnits num' den' := two_pow_log2_le_roundUnits hden' (by omega)

/-- The bits that are dropped from a number on the grid are zeros. -/
theorem OnGrid.dvd {n : Nat} (h : OnGrid n) : 2 ^ (n.log2 - 52) ∣ n := by
  obtain ⟨m, k, rfl, hm⟩ := h
  rcases Nat.lt_or_eq_of_le hm with hm | rfl
  · by_cases h0 : m * 2 ^ k = 0
    · simp [h0]
    · have hlt : m * 2 ^ k < 2 ^ (53 + k) := by
        rw [Nat.pow_add]
        exact Nat.mul_lt_mul_of_pos_right hm (Nat.two_pow_pos k)
      have hlog := (Nat.log2_lt h0).2 hlt
      exact Nat.dvd_trans (Nat.pow_dvd_pow 2 (by omega)) (Nat.dvd_mul_left _ m)
  · rw [← Nat.pow_add, Nat.log2_two_pow]
    exact Nat.pow_dvd_pow 2 (by omega)

/-- What is on the grid is not moved. -/
theorem roundUnits_of_onGrid {n : Nat} (h : OnGrid n) : roundUnits n 1 = n := by
  obtain ⟨c, hc⟩ := h.dvd
  simp only [roundUnits, Nat.div_one, Nat.one_mul]
  generalize 2 ^ (n.log2 - 52) = p at hc ⊢
  by_cases hp : p = 0
  · simp [hc, hp]
  · rw [hc, Nat.mul_comm p c, roundHalfEven_mul c (Nat.pos_of_ne_zero hp)]

/-! ## The end of the range -/

/-- Half a step past the greatest magnitude of a binary64 number, in units. -/
def overflowUnits : Nat := (2 ^ 54 - 1) * 2 ^ (topExponent - 54)

theorem roundUnits_overflowUnits : roundUnits overflowUnits 1 = 2 ^ topExponent := by
  decide +kernel

theorem leading_lt (e : Nat) : (2 ^ 54 - 1) * 2 ^ e < 2 ^ (54 + e) := by
  rw [Nat.pow_add]
  exact Nat.mul_lt_mul_of_pos_right (by decide) (Nat.two_pow_pos e)

theorem overflowUnits_lt : overflowUnits < 2 ^ topExponent := by
  have h := leading_lt (topExponent - 54)
  rwa [show 54 + (topExponent - 54) = topExponent from rfl] at h

/-- Leading bits are not rounded up to the next octave before the last half of a step. -/
theorem roundHalfEven_lt_of_lt {num den e : Nat} (hden : 0 < den)
    (h : num < (2 ^ 54 - 1) * 2 ^ e * den) : roundHalfEven num (den * 2 ^ (e + 1)) < 2 ^ 53 := by
  have hnearest : NearestEven num _ (roundHalfEven num (den * 2 ^ (e + 1))) :=
    nearestEven_roundHalfEven (Nat.mul_pos hden (Nat.two_pow_pos (e + 1)))
  have habove := hnearest.not_above
  have hhalf (m : Nat) : 2 * (m * 2 ^ e * den) = m * (den * 2 ^ (e + 1)) := by
    rw [Nat.pow_succ', Nat.mul_assoc m, Nat.mul_left_comm 2 m, Nat.mul_left_comm den 2,
      Nat.mul_comm den]
  have hover := hhalf (2 ^ 54 - 1)
  clear hnearest
  generalize roundHalfEven num (den * 2 ^ (e + 1)) = r at habove ⊢
  generalize den * 2 ^ (e + 1) = d at habove hover
  refine Nat.lt_of_not_le fun hle => ?_
  have hd : 2 ^ 53 * d ≤ r * d := Nat.mul_le_mul_right d hle
  linarith only [h, habove, hover, hd]

/-- **What is rounded stays in range** exactly below half a step past the greatest magnitude. -/
theorem roundUnits_lt_iff {num den : Nat} (hden : 0 < den) :
    roundUnits num den < 2 ^ topExponent ↔ num < overflowUnits * den := by
  constructor
  · intro h
    refine Nat.lt_of_not_le fun hle => Nat.not_le_of_lt h ?_
    rw [← roundUnits_overflowUnits]
    refine roundUnits_mono Nat.one_pos hden ?_
    rwa [Nat.mul_one]
  · intro h
    have hquot : num / den < overflowUnits := (Nat.div_lt_iff_lt_mul hden).2 h
    have hlog : (num / den).log2 < topExponent := by
      by_cases h0 : num / den = 0
      · rw [h0, Nat.log2_zero]
        decide
      · exact (Nat.log2_lt h0).2 (Nat.lt_trans hquot overflowUnits_lt)
    obtain ⟨e, he⟩ : ∃ e, topExponent = 53 + (e + 1) := ⟨2044, rfl⟩
    by_cases hlast : (num / den).log2 - 52 = e + 1
    · simp only [roundUnits, hlast]
      rw [he, Nat.pow_add 2 53]
      refine Nat.mul_lt_mul_of_pos_right (roundHalfEven_lt_of_lt hden ?_) (Nat.two_pow_pos _)
      rwa [overflowUnits, show topExponent - 54 = e by omega] at h
    · exact Nat.lt_of_le_of_lt (roundUnits_le hden) (Nat.pow_lt_pow_right (by decide) (by omega))

/-! ## Whole numbers as binary64 numbers -/

namespace Binary64

theorem unitsPerOne_pos : 0 < unitsPerOne := Nat.two_pow_pos oneExponent

theorem onGrid_of_le {n : Nat} (h : n ≤ 2 ^ 53) : OnGrid (n * unitsPerOne) :=
  ⟨n, oneExponent, rfl, h⟩

/-- The nearest binary64 number to a whole number, in units. -/
def wholeUnits (i : Int) : Int :=
  if i < 0 then -(roundUnits (i.natAbs * unitsPerOne) 1 : Int)
  else roundUnits (i.natAbs * unitsPerOne) 1

theorem scaled_ofWhole_eq (i : Int) (h : i.natAbs < 2 ^ 64) :
    (ofWhole i h).scaled = wholeUnits i := by
  simp [scaled, ofWhole, wholeUnits]

/-- **Whole numbers are rounded in their order.** -/
theorem wholeUnits_mono {i j : Int} (h : i ≤ j) : wholeUnits i ≤ wholeUnits j := by
  have hmono {m n : Nat} (hmn : m ≤ n) :
      roundUnits (m * unitsPerOne) 1 ≤ roundUnits (n * unitsPerOne) 1 := by
    refine roundUnits_mono Nat.one_pos Nat.one_pos (Nat.mul_le_mul_right 1 ?_)
    exact Nat.mul_le_mul_right _ hmn
  unfold wholeUnits
  split
  · split
    · have := hmono (show j.natAbs ≤ i.natAbs by omega)
      omega
    · omega
  · rw [if_neg (by omega)]
    have := hmono (show i.natAbs ≤ j.natAbs by omega)
    omega

theorem scaled_ofWhole_le {i j : Int} (hi : i.natAbs < 2 ^ 64) (hj : j.natAbs < 2 ^ 64)
    (h : i ≤ j) : (ofWhole i hi).scaled ≤ (ofWhole j hj).scaled := by
  rw [scaled_ofWhole_eq, scaled_ofWhole_eq]
  exact wholeUnits_mono h

/-- Whole numbers on the grid are kept. -/
theorem wholeUnits_of_onGrid {i : Int} (h : OnGrid (i.natAbs * unitsPerOne)) :
    wholeUnits i = i * unitsPerOne := by
  rw [wholeUnits, roundUnits_of_onGrid h, Int.natCast_mul]
  split
  · rw [← Int.neg_mul, Int.ofNat_natAbs_of_nonpos (by omega), Int.neg_neg]
  · rw [Int.natAbs_of_nonneg (by omega)]

/-- Whole numbers up to `2 ^ 53` are kept. -/
theorem scaled_ofWhole {i : Int} (hi : i.natAbs < 2 ^ 64) (h : i.natAbs ≤ 2 ^ 53) :
    (ofWhole i hi).scaled = i * unitsPerOne := by
  rw [scaled_ofWhole_eq, wholeUnits_of_onGrid (onGrid_of_le h)]

/-- A whole number is rounded to a whole number: past `2 ^ 53` what is kept are multiples of one. -/
theorem dvd_roundUnits (n : Nat) : unitsPerOne ∣ roundUnits (n * unitsPerOne) 1 := by
  rcases le_or_gt n (2 ^ 53) with hn | hn
  · rw [roundUnits_of_onGrid (onGrid_of_le hn)]
    exact Nat.dvd_mul_left _ _
  · -- At least as many bits are dropped as one has below it.
    have hpow : 2 ^ (53 + oneExponent) ≤ n * unitsPerOne := by
      rw [Nat.pow_add]
      exact Nat.mul_le_mul_right _ hn.le
    have hne : n * unitsPerOne ≠ 0 := (lt_of_lt_of_le (Nat.two_pow_pos _) hpow).ne'
    have hlog : 53 + oneExponent ≤ (n * unitsPerOne / 1).log2 := by
      rw [Nat.div_one]
      exact (Nat.le_log2 hne).2 hpow
    exact Nat.dvd_trans (Nat.pow_dvd_pow 2 (by omega)) (Nat.dvd_mul_left _ _)

theorem exists_wholeUnits_eq (i : Int) :
    ∃ r : Int, wholeUnits i = r * unitsPerOne ∧ OnGrid (r.natAbs * unitsPerOne) := by
  obtain ⟨r, hr⟩ := dvd_roundUnits i.natAbs
  have hgrid : OnGrid (r * unitsPerOne) := by
    rw [Nat.mul_comm, ← hr]
    exact onGrid_roundUnits Nat.one_pos
  rw [wholeUnits, hr, Nat.mul_comm, Int.natCast_mul]
  split
  · exact ⟨-r, (Int.neg_mul _ _).symm, by rwa [Int.natAbs_neg, Int.natAbs_natCast]⟩
  · exact ⟨r, rfl, by rwa [Int.natAbs_natCast]⟩

end Binary64
end Rulebook
