import Mathlib.Data.List.Induction
import Rulebook.Number.Numeral

/-!
# Numbers in decimal digits

Reading a run of digits undoes writing a number in decimal, and zeros in front do not count: the
runs of digits that read as a number are its decimal text with any number of zeros before it
(`readDigits?_eq_some_iff`). For a position in a list a plus may come first
(`readIndex?_eq_some_iff`).
-/

namespace Rulebook

/-- The text is the number in decimal, perhaps with zeros in front. -/
def WritesDigits (cs : List Char) (n : Nat) : Prop :=
  ∃ zeros, cs = List.replicate zeros '0' ++ Nat.toDigits 10 n

theorem writesDigits_toDigits (n : Nat) : WritesDigits (Nat.toDigits 10 n) n := ⟨0, rfl⟩

theorem WritesDigits.ne_nil {cs : List Char} {n : Nat} (h : WritesDigits cs n) : cs ≠ [] := by
  obtain ⟨zeros, rfl⟩ := h
  simp [Nat.toDigits_ne_nil]

theorem WritesDigits.isDigit {cs : List Char} {n : Nat} (h : WritesDigits cs n) :
    ∀ c ∈ cs, c.isDigit = true := by
  obtain ⟨zeros, rfl⟩ := h
  intro c hc
  rcases List.mem_append.1 hc with hc | hc
  · obtain rfl := List.eq_of_mem_replicate hc
    decide
  · exact Nat.isDigit_of_mem_toDigits (by decide) (by decide) hc

theorem WritesDigits.digitsValue {cs : List Char} {n : Nat} (h : WritesDigits cs n) :
    digitsValue cs = n := by
  obtain ⟨zeros, rfl⟩ := h
  rw [Rulebook.digitsValue, Nat.ofDigitChars_append, Nat.ofDigitChars_replicate_zero, Nat.mul_zero,
    Nat.ofDigitChars_ten_toDigits]

/-- The number that one more digit makes. -/
theorem digitsValue_concat (cs : List Char) (c : Char) :
    digitsValue (cs ++ [c]) = 10 * digitsValue cs + (c.toNat - '0'.toNat) := by
  rw [digitsValue, Nat.ofDigitChars_append, Nat.ofDigitChars_cons, Nat.ofDigitChars_nil,
    digitsValue]

theorem digitChar_of_isDigit {c : Char} (h : c.isDigit = true) :
    c.toNat - '0'.toNat < 10 ∧ Nat.digitChar (c.toNat - '0'.toNat) = c := by
  have hcode := Char.isDigit_iff_toNat.1 h
  simp only [Char.reduceToNat] at hcode ⊢
  refine ⟨by omega, Char.toNat_inj.1 ?_⟩
  rw [Nat.toNat_digitChar_of_lt_ten (by omega)]
  omega

/-- A run of digits is the decimal text of what it denotes, behind zeros. -/
theorem writesDigits_digitsValue {cs : List Char} (hne : cs ≠ [])
    (h : ∀ c ∈ cs, c.isDigit = true) : WritesDigits cs (digitsValue cs) := by
  -- The last digit of a run is the last digit of the number, so the run is taken from its end.
  induction cs using List.reverseRecOn with
  | nil => exact absurd rfl hne
  | append_singleton front c ih =>
    obtain ⟨hlt, hchar⟩ := digitChar_of_isDigit (h c (by simp))
    rw [digitsValue_concat]
    generalize c.toNat - '0'.toNat = d at hlt hchar ⊢
    subst hchar
    by_cases hfront : front = []
    · subst hfront
      exact ⟨0, by simp [digitsValue, Nat.toDigits_of_lt_base hlt]⟩
    · obtain ⟨zeros, hzeros⟩ := ih hfront fun c hc => h c (List.mem_append_left _ hc)
      by_cases hvalue : digitsValue front = 0
      · rw [hvalue, Nat.toDigits_zero, ← List.replicate_succ'] at hzeros
        refine ⟨zeros + 1, ?_⟩
        rw [hvalue, Nat.mul_zero, Nat.zero_add, Nat.toDigits_of_lt_base hlt, ← hzeros]
      · refine ⟨zeros, ?_⟩
        rw [← Nat.toDigits_append_toDigits (by decide) (Nat.pos_of_ne_zero hvalue) hlt,
          ← List.append_assoc, ← hzeros, Nat.toDigits_of_lt_base hlt]

/-- **Reading digits.** A text reads as a number if and only if it is the number in decimal behind
zeros. -/
theorem readDigits?_eq_some_iff {cs : List Char} {n : Nat} :
    readDigits? cs = some n ↔ WritesDigits cs n := by
  unfold readDigits?
  constructor
  · intro h
    obtain ⟨⟨hne, hall⟩, hvalue⟩ := Option.ite_none_right_eq_some.1 h
    rw [← Option.some.inj hvalue]
    exact writesDigits_digitsValue hne (List.all_eq_true.1 hall)
  · intro h
    rw [if_pos ⟨h.ne_nil, List.all_eq_true.2 h.isDigit⟩, h.digitsValue]

/-! ## Positions in a list -/

/-- The text is a position of 64 bits in decimal, perhaps with zeros in front and a plus before. -/
def WritesIndex (cs : List Char) (i : Nat) : Prop :=
  i < 2 ^ 64 ∧ ∃ plus digits, cs = plus ++ digits ∧ (plus = [] ∨ plus = ['+']) ∧
    WritesDigits digits i

theorem writesIndex_toDigits {i : Nat} (h : i < 2 ^ 64) : WritesIndex (Nat.toDigits 10 i) i :=
  ⟨h, [], _, rfl, .inl rfl, writesDigits_toDigits i⟩

/-- What follows a plus, or the whole text if it does not start with one. -/
def dropPlus : List Char → List Char
  | '+' :: rest => rest
  | cs => cs

theorem readIndex?_eq (cs : List Char) :
    readIndex? cs = (readDigits? (dropPlus cs)).filter (· < 2 ^ 64) := rfl

theorem dropPlus_of_isDigit {cs : List Char} (h : ∀ c ∈ cs, c.isDigit = true) :
    dropPlus cs = cs := by
  unfold dropPlus
  split
  · exact absurd (h '+' List.mem_cons_self) (by decide)
  · rfl

/-- **Reading positions.** -/
theorem readIndex?_eq_some_iff {cs : List Char} {i : Nat} :
    readIndex? cs = some i ↔ WritesIndex cs i := by
  rw [readIndex?_eq, Option.filter_eq_some_iff, readDigits?_eq_some_iff, decide_eq_true_eq]
  constructor
  · rintro ⟨hdigits, hi⟩
    refine ⟨hi, ?_⟩
    unfold dropPlus at hdigits
    split at hdigits
    · exact ⟨['+'], _, rfl, .inr rfl, hdigits⟩
    · exact ⟨[], _, rfl, .inl rfl, hdigits⟩
  · rintro ⟨hi, plus, digits, rfl, rfl | rfl, hdigits⟩
    · rw [List.nil_append, dropPlus_of_isDigit hdigits.isDigit]
      exact ⟨hdigits, hi⟩
    · exact ⟨hdigits, hi⟩

end Rulebook
