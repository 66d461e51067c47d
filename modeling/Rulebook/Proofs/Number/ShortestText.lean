import Rulebook.Number.Shortest
import Rulebook.Proofs.Number.DecimalText
import Rulebook.Proofs.Number.DecimalValue

/-!
# The text of a number reads as the number

**Theorem (`Numeral.read?_text`).** The shortest text of a binary64 number reads as this number, the
sign of zero included.

The shortest decimal reads back because no other is taken: a candidate on a decimal grid counts only
if it does, and where there is none all digits are written. The text then is a matter of layout. Its
digits are those of the decimal, with zeros before or after them that only move the point, and what
they make up is said by the power of ten of the first (`LeadsAt`).
-/

namespace Rulebook

/-! ## The shortest decimal -/

namespace Binary64

variable {x : Binary64}

theorem readsBack_iff {digits : Nat} {exponent : Int} :
    x.readsBack digits exponent = true ↔
      (Decimal.mk x.negative digits exponent).toBinary64? = some x := by
  unfold readsBack
  constructor
  · intro h
    split at h
    · next y hy =>
      obtain ⟨hnegative, -⟩ := Decimal.units_of_toBinary64? hy
      rw [hy, eq_of_units_eq hnegative (beq_iff_eq.1 h)]
    · cases h
  · intro h
    rw [h]
    exact beq_self_eq_true x.units

/-- Whichever neighbour on a decimal grid is taken reads back. -/
theorem readsBack_onDecimalGrid? {exponent : Int} {digits : Nat}
    (h : x.onDecimalGrid? exponent = some digits) : x.readsBack digits exponent = true := by
  have hround (num den : Nat) :
      roundHalfEven num den = num / den ∨ roundHalfEven num den = num / den + 1 := by
    unfold roundHalfEven
    split_ifs <;> simp
  unfold onDecimalGrid? at h
  simp only at h
  split at h
  · next hbelow habove =>
    cases h
    rcases hround (x.scaledBy exponent).1 (x.scaledBy exponent).2 with hr | hr <;> rwa [hr]
  · next hbelow _ => cases h; exact hbelow
  · next _ habove => cases h; exact habove
  · cases h

theorem magnitude_exactDecimal (x : Binary64) : x.exactDecimal.magnitude = x.magnitude := by
  have hten : (10 : ℚ) ^ (-(oneExponent : Int)) = (5 ^ oneExponent * 2 ^ oneExponent)⁻¹ := by
    rw [zpow_neg, zpow_natCast, ← mul_pow]
    norm_num
  have hfive : (5 : ℚ) ^ oneExponent ≠ 0 := pow_ne_zero _ (by norm_num)
  rw [Decimal.magnitude, exactDecimal, magnitude, unitsPerOne, hten]
  push_cast
  rw [mul_inv, mul_assoc, ← mul_assoc _ _ (2 ^ oneExponent)⁻¹, mul_inv_cancel₀ hfive, one_mul,
    div_eq_mul_inv]

/-- **The shortest decimal reads back**, be it found on a grid or not. -/
theorem toBinary64?_shortest (x : Binary64) : x.shortest.toBinary64? = some x := by
  simp only [shortest]
  split
  · next d hd =>
    obtain ⟨e, -, he⟩ := List.exists_of_findSome?_eq_some hd
    obtain ⟨digits, hdigits, rfl⟩ := Option.map_eq_some_iff.1 he
    exact readsBack_iff.1 (readsBack_onDecimalGrid? hdigits)
  · exact Decimal.toBinary64?_of_magnitude_eq rfl x.magnitude_exactDecimal

theorem digits_shortest_ne_zero (h : x.units ≠ 0) : x.shortest.digits ≠ 0 := by
  intro h0
  obtain ⟨-, hunits⟩ := Decimal.units_of_toBinary64? x.toBinary64?_shortest
  have hmagnitude : x.shortest.magnitude = 0 := by
    rw [Decimal.magnitude, h0, Nat.cast_zero, zero_mul]
  rw [hmagnitude] at hunits
  exact h (hunits.trans (roundUnits_of_lt (by simp)))

end Binary64

/-! ## Digits and powers of ten -/

theorem digitsValue_append_zeros (cs : List Char) (zeros : Nat) :
    digitsValue (cs ++ List.replicate zeros '0') = 10 ^ zeros * digitsValue cs := by
  rw [digitsValue, Nat.ofDigitChars_append, Nat.ofDigitChars_replicate_zero, digitsValue]

theorem digitsValue_zeros_append (zeros : Nat) (cs : List Char) :
    digitsValue (List.replicate zeros '0' ++ cs) = digitsValue cs := by
  rw [digitsValue, Nat.ofDigitChars_append, Nat.ofDigitChars_replicate_zero, Nat.mul_zero,
    digitsValue]

namespace Decimal

/-- The digits make up the number if the first of them has this power of ten. -/
structure LeadsAt (first : Int) (digits : List Char) (q : ℚ) : Prop where
  ne_nil : digits ≠ []
  isDigit : ∀ c ∈ digits, c.isDigit = true
  value : q = digitsValue digits * 10 ^ (first + 1 - digits.length)

theorem isDigit_of_mem_zeros {zeros : Nat} : ∀ c ∈ List.replicate zeros '0', c.isDigit = true := by
  intro c hc
  rw [List.eq_of_mem_replicate hc]
  rfl

theorem leadsAt_append_zeros {first : Int} {digits : List Char} {q : ℚ} (hne : digits ≠ [])
    (zeros : Nat) :
    LeadsAt first (digits ++ List.replicate zeros '0') q ↔ LeadsAt first digits q := by
  have hvalue : (digitsValue (digits ++ List.replicate zeros '0') : ℚ) *
        10 ^ (first + 1 - (digits ++ List.replicate zeros '0').length) =
      digitsValue digits * 10 ^ (first + 1 - digits.length) := by
    have hexponent : first + 1 - digits.length =
        zeros + (first + 1 - (digits ++ List.replicate zeros '0').length) := by
      simp
      omega
    rw [digitsValue_append_zeros, hexponent, zpow_add₀ (by norm_num), zpow_natCast]
    push_cast
    rw [mul_comm (10 ^ zeros : ℚ), mul_assoc]
  constructor
  · rintro ⟨-, hdigits, hq⟩
    exact ⟨hne, (List.forall_mem_append.1 hdigits).1, hq.trans hvalue⟩
  · rintro ⟨-, hdigits, hq⟩
    exact ⟨by simp [hne], List.forall_mem_append.2 ⟨hdigits, isDigit_of_mem_zeros⟩,
      hq.trans hvalue.symm⟩

/-- Each zero in front moves the first digit by one place. -/
theorem LeadsAt.zeros_append {first : Int} {digits : List Char} {q : ℚ}
    (h : LeadsAt first digits q) (zeros : Nat) :
    LeadsAt (first + zeros) (List.replicate zeros '0' ++ digits) q where
  ne_nil := by simp [h.ne_nil]
  isDigit := List.forall_mem_append.2 ⟨isDigit_of_mem_zeros, h.isDigit⟩
  value := by
    have hexponent : first + zeros + 1 - (List.replicate zeros '0' ++ digits).length =
        first + 1 - digits.length := by
      simp
      omega
    rw [h.value, digitsValue_zeros_append, hexponent]

/-- Only zeros are dropped. -/
theorem exists_trimZeros {cs : List Char} (h : digitsValue cs ≠ 0) :
    trimZeros cs ≠ [] ∧ ∃ zeros, cs = trimZeros cs ++ List.replicate zeros '0' := by
  obtain ⟨zeros, hzeros⟩ : ∃ zeros,
      cs = (cs.reverse.dropWhile (· == '0')).reverse ++ List.replicate zeros '0' := by
    have hsplit := List.takeWhile_append_dropWhile (p := (· == '0')) (l := cs.reverse)
    refine ⟨(cs.reverse.takeWhile (· == '0')).length, ?_⟩
    have htake : (cs.reverse.takeWhile (· == '0')).reverse =
        List.replicate (cs.reverse.takeWhile (· == '0')).length '0' := by
      rw [List.eq_replicate_iff, List.length_reverse]
      exact ⟨rfl, fun c hc => by simpa using List.mem_takeWhile_imp (List.mem_reverse.1 hc)⟩
    rw [← htake, ← List.reverse_append, hsplit, List.reverse_reverse]
  unfold trimZeros
  split
  · next hnil =>
    rw [hnil] at hzeros
    rw [hzeros, digitsValue_append_zeros] at h
    exact absurd (Nat.mul_zero _) h
  · next hne => exact ⟨hne, zeros, hzeros⟩

variable {d : Decimal}

/-- The significant digits of a decimal, the first of them at its power of ten. -/
theorem leadsAt_significant (h : d.digits ≠ 0) :
    LeadsAt d.significant.2 d.significant.1 d.magnitude := by
  have hwritten := writesDigits_toDigits d.digits
  have hvalue := hwritten.digitsValue
  obtain ⟨hne, zeros, hzeros⟩ := exists_trimZeros (hvalue.trans_ne h)
  refine (leadsAt_append_zeros hne zeros).1 ?_
  rw [significant, ← hzeros]
  refine ⟨hwritten.ne_nil, hwritten.isDigit, ?_⟩
  have hexponent (length : Int) : d.exponent + length - 1 + 1 - length = d.exponent := by omega
  rw [hvalue, magnitude, hexponent]

/-! ## The two layouts -/

/-- The digits with a point after the first, if there are more. -/
def mantissaText : List Char → List Char
  | [] => []
  | [c] => [c]
  | c :: rest => c :: '.' :: rest

/-- The exponent with its sign. -/
def exponentText (first : Int) : List Char :=
  (if first < 0 then ['e', '-'] else ['e', '+']) ++ Nat.toDigits 10 first.natAbs

/-- The digits after the point, at least one. -/
def fractionText (fraction : List Char) : List Char := if fraction.isEmpty then ['0'] else fraction

/-- The layout with a point only. -/
def pointText (digits : List Char) (first : Int) : List Char :=
  (aroundPoint digits first).1 ++ '.' :: fractionText (aroundPoint digits first).2

theorem text_eq (d : Decimal) :
    d.text = (if d.negative then ['-'] else []) ++
      if d.significant.2 < -5 ∨ 16 ≤ d.significant.2 then
        mantissaText d.significant.1 ++ exponentText d.significant.2
      else pointText d.significant.1 d.significant.2 := by
  rcases hsignificant : d.significant with ⟨digits, first⟩
  simp only [text, hsignificant, pointText, exponentText, ← List.append_assoc]
  rcases aroundPoint digits first with ⟨whole, fraction⟩
  cases d.negative <;> rfl

variable {first : Int} {digits : List Char} {q : ℚ}

/-- A text that writes a magnitude. -/
def WritesQuantity (negative : Bool) (cs : List Char) (q : ℚ) : Prop :=
  ∃ d, WritesMagnitude negative cs d ∧ d.negative = negative ∧ d.magnitude = q

theorem writesMagnitude_of_leadsAt {negative : Bool} {mantissa whole fraction exponent : List Char}
    {e : Int} (hpoint : WritesPoint mantissa whole fraction)
    (hexponent : WritesExponent exponent e)
    (h : LeadsAt (e + (whole.length - 1)) (whole ++ fraction) q) :
    WritesQuantity negative (mantissa ++ exponent) q := by
  refine ⟨_, .mk hpoint h.isDigit h.ne_nil hexponent, rfl, ?_⟩
  have hlength : e + (whole.length - 1) + 1 - (whole ++ fraction).length = e - fraction.length := by
    simp
    omega
  rw [h.value, hlength]
  rfl

theorem writesExponent_exponentText (first : Int) : WritesExponent (exponentText first) first := by
  have hdigits := writesDigits_toDigits first.natAbs
  unfold exponentText
  split
  · next hneg =>
    have h := WritesExponent.power (.inl rfl) .minus hdigits
    rwa [if_pos rfl, Int.ofNat_natAbs_of_nonpos hneg.le, Int.neg_neg] at h
  · next hnonneg =>
    have h := WritesExponent.power (.inl rfl) .plus hdigits
    rwa [if_neg Bool.false_ne_true, Int.natAbs_of_nonneg (by omega)] at h

theorem writesQuantity_scientific (h : LeadsAt first digits q) (negative : Bool) :
    WritesQuantity negative (mantissaText digits ++ exponentText first) q := by
  cases digits with
  | nil => exact absurd rfl h.ne_nil
  | cons c rest =>
    have hpoint : WritesPoint (mantissaText (c :: rest)) [c] rest := by
      cases rest with
      | nil => exact .without [c]
      | cons c' rest => exact .within [c] (c' :: rest)
    exact writesMagnitude_of_leadsAt hpoint (writesExponent_exponentText first) (by simpa using h)

theorem fractionText_of_ne_nil {fraction : List Char} (h : fraction ≠ []) :
    fractionText fraction = fraction := by
  simp [fractionText, h]

/-- The digits around the point are those of the number, with zeros before or after them. -/
theorem leadsAt_aroundPoint (h : LeadsAt first digits q) :
    LeadsAt ((aroundPoint digits first).1.length - 1)
      ((aroundPoint digits first).1 ++ fractionText (aroundPoint digits first).2) q := by
  unfold aroundPoint
  split
  · next hneg =>
    obtain ⟨k, hk⟩ : ∃ k : Nat, first = -(k + 1) := ⟨first.natAbs - 1, by omega⟩
    have hzeros := h.zeros_append (k + 1)
    have hfirst : first + (k + 1 : Nat) = ((['0'].length : Nat) : Int) - 1 := by
      simp
      omega
    have hplaces : first.natAbs - 1 = k := by omega
    rw [fractionText_of_ne_nil (by simp [h.ne_nil]), hplaces, ← hfirst]
    exact hzeros
  · next hnonneg =>
    simp only
    generalize hplaces : first.toNat + 1 = places
    by_cases hlength : digits.length ≤ places
    · have htake : digits.take places = digits := List.take_of_length_le hlength
      have hdrop : digits.drop places = [] := List.drop_of_length_le hlength
      have happend : digits ++ List.replicate (places - digits.length) '0' ++ ['0'] =
          digits ++ List.replicate (places - digits.length + 1) '0' := by
        rw [List.append_assoc, ← List.replicate_succ']
      have hfirst : ((digits ++ List.replicate (places - digits.length) '0').length : Int) - 1 =
          first := by
        simp
        omega
      rw [htake, hdrop, hfirst, show fractionText [] = ['0'] from rfl, happend]
      exact (leadsAt_append_zeros h.ne_nil _).2 h
    · have htake : (digits.take places).length = places := List.length_take_of_le (by omega)
      have hdrop : digits.drop places ≠ [] := by simp; omega
      have hfirst : (places : Int) - 1 = first := by omega
      rw [fractionText_of_ne_nil hdrop, htake, Nat.sub_self, List.replicate_zero, List.append_nil,
        List.take_append_drop, htake, hfirst]
      exact h

theorem writesQuantity_pointText (h : LeadsAt first digits q) (negative : Bool) :
    WritesQuantity negative (pointText digits first) q := by
  have hwrites : WritesQuantity negative (pointText digits first ++ []) q :=
    writesMagnitude_of_leadsAt (.within _ _) .nothing
      (by rw [Int.zero_add]; exact leadsAt_aroundPoint h)
  rwa [List.append_nil] at hwrites

/-- **The text of a decimal writes a decimal of the same sign and magnitude.** -/
theorem exists_writes_text {d : Decimal} (h : d.digits ≠ 0) :
    ∃ d', Writes d.text d' ∧ d'.negative = d.negative ∧ d'.magnitude = d.magnitude := by
  have hleads := leadsAt_significant h
  have hsign : WritesSign (if d.negative then ['-'] else []) d.negative := by
    cases d.negative
    · exact .nothing
    · exact .minus
  rw [text_eq]
  by_cases hlayout : d.significant.2 < -5 ∨ 16 ≤ d.significant.2
  · rw [if_pos hlayout]
    obtain ⟨d', hd', hvalue⟩ := writesQuantity_scientific hleads d.negative
    exact ⟨d', .mk hsign hd', hvalue⟩
  · rw [if_neg hlayout]
    obtain ⟨d', hd', hvalue⟩ := writesQuantity_pointText hleads d.negative
    exact ⟨d', .mk hsign hd', hvalue⟩

end Decimal

/-! ## Reading the text -/

namespace Binary64

theorem exists_writes_text (x : Binary64) :
    ∃ d, Decimal.Writes x.text d ∧ d.toBinary64? = some x := by
  unfold text
  split
  · next hzero =>
    -- Zero is the one number that has its text by itself.
    have hmagnitude : Decimal.WritesMagnitude x.negative "0.0".toList
        (.ofDigits x.negative ['0'] ['0'] 0) :=
      .mk (.within ['0'] ['0']) (List.all_eq_true.1 (by decide)) (by decide)
        .nothing
    have hx : Binary64.zero x.negative = x := eq_of_units_eq rfl hzero.symm
    refine ⟨.ofDigits x.negative ['0'] ['0'] 0, ?_, ?_⟩
    · generalize x.negative = negative at hmagnitude
      cases negative with
      | false => exact .mk .nothing hmagnitude
      | true => exact .mk .minus hmagnitude
    · exact (if_pos rfl).trans (congrArg some hx)
  · next hne =>
    obtain ⟨d, hwrites, hnegative, hmagnitude⟩ :=
      Decimal.exists_writes_text (x.digits_shortest_ne_zero hne)
    have hreads := Decimal.toBinary64?_congr hnegative hmagnitude
    exact ⟨d, hwrites, hreads.trans x.toBinary64?_shortest⟩

end Binary64

/-- The text has a point or an exponent. -/
theorem Binary64.exists_mem_text (x : Binary64) : '.' ∈ x.text ∨ 'e' ∈ x.text := by
  unfold text
  split
  · cases x.negative <;> exact .inl (by decide)
  · rw [Decimal.text_eq]
    by_cases hlayout : x.shortest.significant.2 < -5 ∨ 16 ≤ x.shortest.significant.2
    · rw [if_pos hlayout]
      refine .inr (List.mem_append_right _ (List.mem_append_right _ (List.mem_append_left _ ?_)))
      split <;> exact List.mem_cons_self
    · rw [if_neg hlayout]
      exact .inl (List.mem_append_right _ (List.mem_append_right _ List.mem_cons_self))

/-- **The text of a number reads as the number.** -/
theorem Numeral.read?_text (x : Binary64) : read? x.text = some (.finite x) :=
  read?_eq_finite_iff.2 x.exists_writes_text

end Rulebook
