import Rulebook.Proofs.Conversion.WholePart
import Rulebook.Proofs.Number.ShortestText
import Rulebook.Proofs.Text.NumeralCase

/-!
# Conversions that keep the number

**Theorem (`converted_compares_alike`).** The numeric operators judge a value and what `double`
makes of it alike, on either side, but for truth values: these count as no numbers until they are
converted. They also judge a number and its text alike, with whatever white space around it, and
this text converts to numbers as the number itself does.

A numeric operator knows nothing of a value but the number that it counts as
(`compare_congr_numeric?`). So all comes down to reading: the text of a number reads as the nearest
binary64 number (`Number.read?_text`), which is the number itself if it is one of these. `int` has a
second reading, of whole numbers. No text of a binary64 number has it, as such a text has a point or
an exponent, and a whole number that is too great for it is rounded, be it given as a number or by
its text.
-/

namespace Rulebook

/-- The operators that compare numbers. -/
def numericOperators : List String :=
  ["greaterThan", "greaterThanOrEquals", "lessThan", "lessThanOrEquals"]

theorem CaseMode.compare_congr_numeric? (mode : CaseMode) {a a' b b' : Value} {o : String}
    (ho : o ∈ numericOperators) (ha : a.numeric? = a'.numeric?) (hb : b.numeric? = b'.numeric?) :
    (Judge.standard mode).compare a o b = (Judge.standard mode).compare a' o b' := by
  have hstand (relation : Binary64 → Binary64 → Bool) :
      a.numbersStand relation b = a'.numbersStand relation b' := by
    rw [Value.numbersStand, ha, hb, Value.numbersStand]
  have hholds {o : Operator} (h : o.holds? mode a b = o.holds? mode a' b') :
      (Judge.standard mode).compare a o.name b = (Judge.standard mode).compare a' o.name b' := by
    simp only [Judge.standard, Operator.ofName?_name, Option.bind_some, h]
  simp only [numericOperators, List.mem_cons, List.not_mem_nil, or_false] at ho
  rcases ho with rfl | rfl | rfl | rfl
  · exact hholds (o := .greaterThan) (congrArg some (hstand _))
  · exact hholds (o := .greaterThanOrEquals) (congrArg some (hstand _))
  · exact hholds (o := .lessThan) (congrArg some (hstand _))
  · exact hholds (o := .lessThanOrEquals) (congrArg some (hstand _))

/-- `double` keeps the number that a value counts as, if it is no truth value. -/
theorem Conversion.exists_double {v : Value} (hv : ∀ b, v ≠ .bool b) :
    ∃ v', double (some v) = some v' ∧ v'.numeric? = v.numeric? := by
  cases v with
  | null | num | arr | obj => exact ⟨_, rfl, rfl⟩
  | bool b => exact absurd rfl (hv b)
  | str s =>
    rcases double_str_cases s with (⟨x, hread, hx⟩ | ⟨hno, hnull⟩) | ⟨-, hsame⟩
    · exact ⟨_, hx, by rw [Value.numeric?, Value.numeric?, hread]; rfl⟩
    · -- An infinity or the lack of a number does not count as a number, and neither does `null`.
      obtain ⟨n, hread, hn⟩ := Numeral.writesNoFinite_iff.1 hno
      have hnone : (Value.str s).numeric? = none := by
        rw [Value.numeric?, hread, Option.bind_some, hn]
      exact ⟨_, hnull, hnone.symm⟩
    · exact ⟨_, hsame, rfl⟩

/-! ## The text of a number -/

theorem isBlank_of_isNumeral {c : Char} (h : Text.isNumeral c = true) : Text.isBlank c = false := by
  simp only [Text.isNumeral, Bool.or_eq_true, beq_iff_eq] at h
  rcases h with ((((hdigit | rfl) | rfl) | rfl) | rfl) | rfl
  · exact isBlank_of_isDigit hdigit
  all_goals decide

namespace Number

theorem read?_text (n : Number) : Numeral.read? n.text = some (.finite n.toBinary64) := by
  cases n with
  | whole i range =>
    exact Numeral.read?_eq_finite_iff.2
      ⟨_, Decimal.writes_wholeText i, Decimal.toBinary64?_whole (by omega)⟩
  | real x => exact Numeral.read?_text x

theorem finite_text (n : Number) :
    (Numeral.read? n.text).bind Numeral.finite? = some n.toBinary64 := by
  rw [read?_text]
  rfl

theorem isNumeral_text (n : Number) : ∀ c ∈ n.text, Text.isNumeral c = true :=
  Numeral.isNumeral_of_finite n.finite_text

theorem text_ne_nil (n : Number) : n.text ≠ [] := by
  intro hnil
  have hfinite := n.finite_text
  rw [hnil] at hfinite
  cases hfinite

theorem trim_text (n : Number) {before after : List Char}
    (hbefore : ∀ c ∈ before, Text.isBlank c = true) (hafter : ∀ c ∈ after, Text.isBlank c = true) :
    Text.trim (before ++ (n.text ++ after)) = n.text :=
  Text.trim_append n.text_ne_nil hbefore
    (fun c hc => isBlank_of_isNumeral (n.isNumeral_text c hc)) hafter

end Number

theorem readInteger?_wholeText (i : Int) : readInteger? (wholeText i) = some i := by
  have hdigits := writesDigits_toDigits i.natAbs
  unfold wholeText
  split
  · exact readInteger?_eq_some_iff.2 ⟨_, _, _, _, rfl, .minus, hdigits, by rw [if_pos rfl]; omega⟩
  · exact readInteger?_eq_some_iff.2
      ⟨_, _, _, _, rfl, .nothing, hdigits, by rw [if_neg Bool.false_ne_true]; omega⟩

/-- The text of a binary64 number is no whole number in digits. -/
theorem readInteger?_text (x : Binary64) : readInteger? x.text = none := by
  cases h : readInteger? x.text with
  | none => rfl
  | some i =>
    obtain ⟨sign, digits, negative, n, htext, hsign, hdigits, -⟩ := readInteger?_eq_some_iff.1 h
    have hnot {c : Char} (hdigit : c.isDigit = false) (hsigns : c ∉ ['-', '+']) : c ∉ x.text := by
      rw [htext, List.mem_append, not_or]
      constructor
      · intro hc
        cases hsign <;> simp_all
      · intro hc
        exact absurd (hdigits.isDigit c hc) (by simp [hdigit])
    rcases x.exists_mem_text with hmem | hmem
    · exact absurd hmem (hnot (by decide) (by decide))
    · exact absurd hmem (hnot (by decide) (by decide))

/-! ## Converting the text of a number -/

namespace Conversion

open Binary64

/-- The text of a number gives its whole part, both ways of reading being the same. -/
theorem textWholePart?_text (n : Number) : textWholePart? n.text = some (wholePart n) := by
  unfold textWholePart? wholePart
  rw [n.finite_text, Option.map_some]
  cases n with
  | whole i range =>
    rw [Number.text, readInt64?, readInteger?_wholeText, int64?]
    by_cases h : i < 2 ^ 63
    · rw [if_pos h, Option.filter_some, if_pos (decide_eq_true ⟨range.1, h⟩)]
      rfl
    · rw [if_neg h, Option.filter_some, if_neg (fun hin => h (of_decide_eq_true hin).2)]
      rfl
  | real x =>
    rw [Number.text, readInt64?, readInteger?_text]
    rfl

/-- A string of the text of a number, with white space around it. -/
def IsTextOf (s : String) (n : Number) : Prop :=
  ∃ before after, (∀ c ∈ before, Text.isBlank c = true) ∧ (∀ c ∈ after, Text.isBlank c = true) ∧
    s.toList = before ++ (n.text ++ after)

variable {s : String} {n : Number}

theorem IsTextOf.trim (h : IsTextOf s n) : Text.trim s.toList = n.text := by
  obtain ⟨before, after, hbefore, hafter, hs⟩ := h
  rw [hs, n.trim_text hbefore hafter]

theorem IsTextOf.numeric? (h : IsTextOf s n) : (Value.str s).numeric? = (Value.num n).numeric? := by
  have hread : (Value.str s).numeric? = some n.toBinary64 := by
    rw [Value.numeric?, h.trim, n.read?_text]
    rfl
  exact hread

theorem IsTextOf.double (h : IsTextOf s n) : double (some (.str s)) = double (some (.num n)) := by
  rw [Conversion.double, h.trim, n.read?_text, Conversion.double]

theorem IsTextOf.int (h : IsTextOf s n) : int (some (.str s)) = int (some (.num n)) := by
  rw [Conversion.int, h.trim, textWholePart?_text, Conversion.int]

end Conversion

/-- **Values compare as what they are converted to.** Of values that are no truth values, the
numeric operators judge what `double` makes of either or both as they judge the values themselves.
They judge the string that `string` makes of a number, with any white space around it, as they judge
the number, and `double` and `int` make the same of both. -/
theorem converted_compares_alike (mode : CaseMode) {o : String} (ho : o ∈ numericOperators) :
    (∀ v w : Value, (∀ b, v ≠ .bool b) → (∀ b, w ≠ .bool b) →
      ∃ v' w', Conversion.double (some v) = some v' ∧ Conversion.double (some w) = some w' ∧
        (Judge.standard mode).compare v' o w = (Judge.standard mode).compare v o w ∧
        (Judge.standard mode).compare v o w' = (Judge.standard mode).compare v o w ∧
        (Judge.standard mode).compare v' o w' = (Judge.standard mode).compare v o w) ∧
      ∀ (n : Number) (w : Value), ∃ s, Conversion.string (some (.num n)) = some (.str s) ∧
        ∀ (t : String) (before after : List Char), (∀ c ∈ before, Text.isBlank c = true) →
          (∀ c ∈ after, Text.isBlank c = true) → t.toList = before ++ (s.toList ++ after) →
          (Judge.standard mode).compare (.str t) o w =
              (Judge.standard mode).compare (.num n) o w ∧
            (Judge.standard mode).compare w o (.str t) =
              (Judge.standard mode).compare w o (.num n) ∧
            Conversion.double (some (.str t)) = Conversion.double (some (.num n)) ∧
            Conversion.int (some (.str t)) = Conversion.int (some (.num n)) := by
  constructor
  · intro v w hv hw
    obtain ⟨v', hv', hvNumber⟩ := Conversion.exists_double hv
    obtain ⟨w', hw', hwNumber⟩ := Conversion.exists_double hw
    exact ⟨v', w', hv', hw', mode.compare_congr_numeric? ho hvNumber rfl,
      mode.compare_congr_numeric? ho rfl hwNumber,
      mode.compare_congr_numeric? ho hvNumber hwNumber⟩
  · intro n w
    refine ⟨(Value.num n).text, rfl, fun t before after hbefore hafter ht => ?_⟩
    have htext : Conversion.IsTextOf t n :=
      ⟨before, after, hbefore, hafter, by simpa [Value.text, Value.chars] using ht⟩
    exact ⟨mode.compare_congr_numeric? ho htext.numeric? rfl,
      mode.compare_congr_numeric? ho rfl htext.numeric?, htext.double, htext.int⟩

/-- The greatest whole number of 64 bits, which rounds up to a binary64 number and which `int`
clamps, against a text that writes it with an exponent and against an infinity. -/
theorem converted_compares_alike_greatest :
    let greatest : Number := .whole (2 ^ 64 - 1) (by decide)
    let judge := (Judge.standard .exact).compare
    (∃ v' w', Conversion.double (some (.num greatest)) = some v' ∧
      Conversion.double (some (.str "inf")) = some w' ∧
      judge v' "lessThan" w' = judge (.num greatest) "lessThan" (.str "inf")) ∧
    judge (.str "\t18446744073709551615 ") "lessThan" (.str "1844674407370955161.6e1") =
      judge (.num greatest) "lessThan" (.str "1844674407370955161.6e1") ∧
    Conversion.int (some (.str "\t18446744073709551615 ")) =
      Conversion.int (some (.num greatest)) := by
  intro greatest judge
  obtain ⟨hdouble, hstring⟩ :=
    converted_compares_alike .exact (o := "lessThan") (by simp [numericOperators])
  obtain ⟨v', w', hv', hw', -, -, hboth⟩ := hdouble (.num greatest) (.str "inf") nofun nofun
  obtain ⟨s, hs, htext⟩ := hstring greatest (.str "1844674407370955161.6e1")
  cases hs
  obtain ⟨hcompare, -, -, hint⟩ := htext "\t18446744073709551615 " ['\t'] [' ']
    (List.all_eq_true.1 (by decide)) (List.all_eq_true.1 (by decide)) (by decide)
  exact ⟨⟨v', w', hv', hw', hboth⟩, hcompare, hint⟩

end Rulebook
