import Rulebook.Conversion
import Rulebook.Proofs.Comparison.WholeNumbers

/-!
# What converts to a number

A conversion to numbers either makes a number of a value or leaves the value alone
(`Conversion.NumberOrSame`). It should make numbers of those strings that are numeric when compared.

**Theorem (`numberOrSame_iff_not_readsNoFinite`).** Of strings, `int` and `double` both make numbers
just when they are numeric. `int` leaves alone whatever it makes no number of. `double` does too,
but for strings that write an infinity or no number at all, by a word or by a decimal that is too
great (`Numeral.WritesNoFinite`): these it makes `null`, so that a value that was there is absent.

`int` reads whole numbers of 64 bits before it reads numbers of any other kind. It has no strings of
its own for that, since every such text also writes a decimal in range
(`Conversion.counts_of_readInt64?`).
-/

namespace Rulebook

/-! ## Texts of no finite number -/

/-- The words for an infinity and for no number. -/
def Numeral.words : List (List Char) := ["inf".toList, "infinity".toList, "nan".toList]

namespace Numeral

/-- The text is one of the words, in any case and with a sign, or writes a decimal out of range. -/
inductive WritesNoFinite : List Char → Prop
  | word {sign word : List Char} {negative : Bool} (hsign : WritesSign sign negative)
      (hword : word.map Char.toLower ∈ words) : WritesNoFinite (sign ++ word)
  | tooGreat {cs : List Char} {d : Decimal} (hd : Decimal.Writes cs d)
      (hgreat : (overflowLimit : ℚ) ≤ d.magnitude) : WritesNoFinite cs

theorem ofDecimal_finite?_eq_none_iff {d : Decimal} :
    (ofDecimal d).finite? = none ↔ (overflowLimit : ℚ) ≤ d.magnitude := by
  rw [← not_lt, ← Decimal.exists_toBinary64?_iff, ofDecimal]
  cases d.toBinary64? <;> simp [finite?]

/-- A word does not start with a sign. -/
theorem ne_sign_of_mem_words {word : List Char} (h : word.map Char.toLower ∈ words) :
    ∀ c, word.head? = some c → c ≠ '-' ∧ c ≠ '+' := by
  have hall : ∀ w ∈ words, w.head? ≠ some '-' ∧ w.head? ≠ some '+' := by decide
  obtain ⟨hminus, hplus⟩ := hall _ h
  rw [List.head?_map] at hminus hplus
  intro c hc
  rw [hc] at hminus hplus
  constructor
  · rintro rfl
    exact hminus rfl
  · rintro rfl
    exact hplus rfl

/-- **Reading what is no finite number.** -/
theorem writesNoFinite_iff {cs : List Char} :
    WritesNoFinite cs ↔ ∃ n, read? cs = some n ∧ n.finite? = none := by
  constructor
  · rintro (⟨hsign, hword⟩ | ⟨hd, hgreat⟩)
    · have hsplit := hsign.splitSign_append (ne_sign_of_mem_words hword)
      simp only [words, List.mem_cons, List.not_mem_nil, or_false] at hword
      simp only [read?, hsplit]
      rcases hword with hword | hword | hword <;> simp [hword, finite?]
    · exact ⟨_, read?_of_writes hd, ofDecimal_finite?_eq_none_iff.2 hgreat⟩
  · rintro ⟨n, hread, hn⟩
    obtain ⟨sign, hsign, hcs⟩ := exists_writesSign cs
    rw [hcs]
    simp only [read?] at hread
    split at hread
    · next hword => exact .word hsign (by rcases hword with hword | hword <;> simp [words, hword])
    · split at hread
      · next hword => exact .word hsign (by simp [words, hword])
      · obtain ⟨d, hd, rfl⟩ := Option.map_eq_some_iff.1 hread
        exact .tooGreat (.mk hsign (Decimal.read?_eq_some_iff.1 hd))
          (ofDecimal_finite?_eq_none_iff.1 hn)

end Numeral

/-! ## Texts of whole numbers -/

theorem Binary64.scaled_zero (negative : Bool) : (zero negative).scaled = 0 := by
  cases negative <;> rfl

theorem Binary64.wholeUnits_zero : wholeUnits 0 = 0 := by
  rw [wholeUnits_of_onGrid (onGrid_of_le (Nat.zero_le _)), Int.zero_mul]

/-- A whole number of 64 bits in digits, with whatever sign, denotes the nearest binary64 number. -/
theorem Decimal.exists_toBinary64?_whole {negative : Bool} {n : Nat} {i : Int}
    (hi : i.natAbs < 2 ^ 64) (h : i = if negative then -(n : Int) else n) :
    ∃ x, toBinary64? ⟨negative, n, 0⟩ = some x ∧ x.scaled = Binary64.wholeUnits i := by
  by_cases hn : n = 0
  · -- Minus zero is written by digits, but it is no whole number of its own.
    have hzero : i = 0 := by
      rw [h, hn]
      cases negative <;> rfl
    subst hzero
    refine ⟨.zero negative, by rw [hn, toBinary64?, if_pos rfl], ?_⟩
    rw [Binary64.scaled_zero, Binary64.wholeUnits_zero]
  · have hsign : negative = decide (i < 0) := by
      cases negative with
      | false => simp [h]
      | true =>
        rw [if_pos rfl] at h
        exact (decide_eq_true (by omega)).symm
    have hdigits : n = i.natAbs := by
      cases negative <;> simp [h]
    rw [hsign, hdigits]
    exact ⟨_, toBinary64?_whole hi, Binary64.scaled_ofWhole_eq i hi⟩

/-- A string that reads as a whole number of 64 bits with a sign counts as the nearest number. -/
theorem Conversion.counts_of_readInt64? {s : String} {i : Int}
    (h : readInt64? (Text.trim s.toList) = some i) :
    ∃ x, (Value.str s).Counts x ∧ x.scaled = Binary64.wholeUnits i := by
  obtain ⟨hread, hrange⟩ := Option.filter_eq_some_iff.1 h
  have hrange : -(2 ^ 63) ≤ i ∧ i < 2 ^ 63 := of_decide_eq_true hrange
  obtain ⟨sign, digits, negative, n, hcs, hsign, hdigits, hi⟩ := readInteger?_eq_some_iff.1 hread
  obtain ⟨x, hx, hscaled⟩ := Decimal.exists_toBinary64?_whole (by omega) hi
  exact ⟨x, .str (hcs ▸ Decimal.writes_whole hsign hdigits) hx, hscaled⟩

/-! ## Values that convert -/

namespace Conversion

/-- The conversion makes a number of the value. -/
def GivesNumber (f : Conversion) (v : Value) : Prop := ∃ n, f (some v) = some (.num n)

/-- The conversion makes a number of the value, or leaves it as it is. -/
def NumberOrSame (f : Conversion) (v : Value) : Prop := f.GivesNumber v ∨ f (some v) = some v

variable {s : String}

theorem exists_textWholePart?_iff :
    (∃ i, textWholePart? (Text.trim s.toList) = some i) ↔ (Value.str s).Numeric := by
  constructor
  · rintro ⟨i, hi⟩
    rcases Option.or_eq_some_iff.1 hi with hi | ⟨-, hi⟩
    · obtain ⟨x, hx, -⟩ := counts_of_readInt64? hi
      exact Value.numeric_iff_counts.2 ⟨x, hx⟩
    · obtain ⟨x, hx, -⟩ := Option.map_eq_some_iff.1 hi
      exact Value.numeric_iff.2 ⟨x, hx⟩
  · intro h
    obtain ⟨x, hx⟩ := Value.numeric_iff.1 h
    have hfinite : (Numeral.read? (Text.trim s.toList)).bind Numeral.finite? = some x := hx
    unfold textWholePart?
    rw [hfinite]
    cases readInt64? (Text.trim s.toList) <;> simp

theorem int_str_of_numeric (h : (Value.str s).Numeric) :
    ∃ i, textWholePart? (Text.trim s.toList) = some i ∧
      int (some (.str s)) = some (.ofClamped i) := by
  obtain ⟨i, hi⟩ := exists_textWholePart?_iff.2 h
  exact ⟨i, hi, by rw [int, hi]⟩

theorem int_str_of_not_numeric (h : ¬ (Value.str s).Numeric) :
    int (some (.str s)) = some (.str s) := by
  cases hi : textWholePart? (Text.trim s.toList) with
  | none => rw [int, hi]
  | some i => exact absurd (exists_textWholePart?_iff.1 ⟨i, hi⟩) h

theorem int_givesNumber_iff : int.GivesNumber (.str s) ↔ (Value.str s).Numeric := by
  constructor
  · rintro ⟨n, hn⟩
    by_contra h
    rw [int_str_of_not_numeric h] at hn
    cases hn
  · intro h
    obtain ⟨i, -, hi⟩ := int_str_of_numeric h
    exact ⟨_, hi⟩

theorem int_numberOrSame (v : Value) : int.NumberOrSame v := by
  cases v with
  | null | arr | obj => exact .inr rfl
  | bool b => exact .inl ⟨_, rfl⟩
  | num n => exact .inl ⟨_, rfl⟩
  | str s =>
    by_cases h : (Value.str s).Numeric
    · exact .inl (int_givesNumber_iff.2 h)
    · exact .inr (int_str_of_not_numeric h)

/-- What `double` makes of a string, by what the string reads as. -/
theorem double_str_cases (s : String) :
    ((∃ x, Numeral.read? (Text.trim s.toList) = some (.finite x) ∧
        double (some (.str s)) = some (.num (.real x))) ∨
      (Numeral.WritesNoFinite (Text.trim s.toList) ∧ double (some (.str s)) = some .null)) ∨
      (Numeral.read? (Text.trim s.toList) = none ∧ double (some (.str s)) = some (.str s)) := by
  cases hread : Numeral.read? (Text.trim s.toList) with
  | none => exact .inr ⟨rfl, by rw [double, hread]⟩
  | some n =>
    cases n with
    | finite x => exact .inl (.inl ⟨x, rfl, by rw [double, hread]⟩)
    | infinite negative =>
      exact .inl (.inr ⟨Numeral.writesNoFinite_iff.2 ⟨_, hread, rfl⟩, by rw [double, hread]⟩)
    | nan =>
      exact .inl (.inr ⟨Numeral.writesNoFinite_iff.2 ⟨_, hread, rfl⟩, by rw [double, hread]⟩)

theorem double_givesNumber_iff : double.GivesNumber (.str s) ↔ (Value.str s).Numeric := by
  constructor
  · rintro ⟨n, hn⟩
    rcases double_str_cases s with (⟨x, hread, -⟩ | ⟨-, hnull⟩) | ⟨-, hsame⟩
    · exact .str hread
    · cases hn.symm.trans hnull
    · cases hn.symm.trans hsame
  · rintro (_ | hread)
    rcases double_str_cases s with (⟨x, -, hx⟩ | ⟨hno, -⟩) | ⟨hnone, -⟩
    · exact ⟨_, hx⟩
    · obtain ⟨n, hn, hfinite⟩ := Numeral.writesNoFinite_iff.1 hno
      rw [hread, Option.some_inj] at hn
      subst hn
      cases hfinite
    · cases hread.symm.trans hnone

end Conversion

/-- The value is a string that writes an infinity or no number at all. -/
def Value.ReadsNoFinite (v : Value) : Prop :=
  ∃ s, v = .str s ∧ Numeral.WritesNoFinite (Text.trim s.toList)

namespace Conversion

theorem double_eq_null_iff {v : Value} :
    double (some v) = some .null ↔ v = .null ∨ v.ReadsNoFinite := by
  cases v with
  | str s =>
    have hreads : (Value.str s).ReadsNoFinite ↔ Numeral.WritesNoFinite (Text.trim s.toList) := by
      simp [Value.ReadsNoFinite]
    rw [hreads]
    rcases double_str_cases s with (⟨x, hread, hx⟩ | ⟨hno, hnull⟩) | ⟨hnone, hsame⟩
    · simp [hx, Numeral.writesNoFinite_iff, hread, Numeral.finite?]
    · simp [hnull, hno]
    · simp [hsame, Numeral.writesNoFinite_iff, hnone]
  | null | bool | num | arr | obj => simp [double, Value.ReadsNoFinite]

theorem double_numberOrSame_iff {v : Value} : double.NumberOrSame v ↔ ¬ v.ReadsNoFinite := by
  constructor
  · rintro h ⟨s, rfl, hno⟩
    have hnull := double_eq_null_iff.2 (.inr ⟨s, rfl, hno⟩)
    rcases h with ⟨n, hn⟩ | hsame
    · cases hn.symm.trans hnull
    · cases hsame.symm.trans hnull
  · intro h
    cases v with
    | null | arr | obj => exact .inr rfl
    | bool | num => exact .inl ⟨_, rfl⟩
    | str s =>
      rcases double_str_cases s with (⟨x, -, hx⟩ | ⟨hno, -⟩) | ⟨-, hsame⟩
      · exact .inl ⟨_, hx⟩
      · exact absurd ⟨s, rfl, hno⟩ h
      · exact .inr hsame

end Conversion

/-! ## Values that compare -/

/-- The numeric values are those that are greater or less than some value. -/
theorem Value.numeric_iff_compares {v : Value} (mode : CaseMode) :
    v.Numeric ↔ ∃ w, mode.Accepts v "greaterThan" w ∨ mode.Accepts v "lessThan" w := by
  simp only [CaseMode.decides_greaterThan.accepts_iff, CaseMode.decides_lessThan.accepts_iff]
  constructor
  · intro h
    -- Zero and one are apart, so that a number differs from one of them.
    obtain ⟨x, hx⟩ := numeric_iff_counts.1 h
    have hzero := Counts.num (.whole 0 (by decide))
    have hone := Counts.num (.whole 1 (by decide))
    have hapart : (Number.toBinary64 (.whole 0 (by decide))).scaled <
        (Number.toBinary64 (.whole 1 (by decide))).scaled :=
      (Binary64.scaled_ofWhole_lt_iff (by decide) (by decide) (by decide) (by decide)).2 (by decide)
    rcases lt_or_ge x.scaled (Number.toBinary64 (.whole 1 (by decide))).scaled with hlt | hge
    · exact ⟨_, .inr ((countsStand_iff hx hone).2 hlt)⟩
    · exact ⟨_, .inl ((countsStand_iff hzero hx).2 (lt_of_lt_of_le hapart hge))⟩
  · rintro ⟨w, h | h⟩
    · exact h.numeric.2
    · exact h.numeric.1

/-- **What the conversions to numbers convert.** Both make numbers of the strings that compare as
numbers, and of no others. `int` leaves what is left as it is. So does `double`, except for strings
that write an infinity or no number: of these, and of no other value but `null`, it makes `null`. -/
theorem numberOrSame_iff_not_readsNoFinite (mode : CaseMode) (v : Value) (s : String) :
    Conversion.int.NumberOrSame v ∧
      (Conversion.double.NumberOrSame v ↔ ¬ v.ReadsNoFinite) ∧
      (Conversion.double (some v) = some .null ↔ v = .null ∨ v.ReadsNoFinite) ∧
      (Conversion.int.GivesNumber (.str s) ↔ (Value.str s).Numeric) ∧
      (Conversion.double.GivesNumber (.str s) ↔ (Value.str s).Numeric) ∧
      ((Value.str s).Numeric ↔
        ∃ w, mode.Accepts (.str s) "greaterThan" w ∨ mode.Accepts (.str s) "lessThan" w) :=
  ⟨Conversion.int_numberOrSame v, Conversion.double_numberOrSame_iff,
    Conversion.double_eq_null_iff, Conversion.int_givesNumber_iff,
    Conversion.double_givesNumber_iff, Value.numeric_iff_compares mode⟩

/-- `double` makes neither a number of this string nor leaves it as it is. -/
theorem not_numberOrSame_double_nan : ¬ Conversion.double.NumberOrSame (.str "nan") := by
  have hnull : Conversion.double (some (.str "nan")) = some .null := rfl
  rintro (⟨n, hn⟩ | hsame)
  · cases hnull.symm.trans hn
  · cases hnull.symm.trans hsame

end Rulebook
