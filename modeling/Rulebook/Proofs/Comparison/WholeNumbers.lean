import Rulebook.Json.Printer
import Rulebook.Proofs.Comparison.NumericOrder

/-!
# Comparing whole numbers

A whole number of 64 bits may be given as such, or by a string of its decimal text with blanks at
the ends. Either way it counts as the nearest binary64 number (`Value.GivesWhole.counts`).

**Theorem (`wholeNumbers_in_order`).** Whole numbers are never compared the wrong way round, however
each of them is given: rounding may make neighbours equal, but it keeps the order. Up to `2 ^ 53`
the numeric operators decide as the order of the whole numbers does.

The bound is the best one: `2 ^ 53` and its successor are not told apart.
-/

namespace Rulebook

/-! ## Reading the decimal text -/

/-- What starts with no blank keeps its front. -/
theorem Text.dropWhile_isBlank_append {text : List Char} (hne : text ≠ [])
    (htext : ∀ c ∈ text, isBlank c = false) (rest : List Char) :
    (text ++ rest).dropWhile isBlank = text ++ rest := by
  cases text with
  | nil => exact absurd rfl hne
  | cons c text => simp [htext c List.mem_cons_self]

theorem Text.trim_append {before text after : List Char} (hne : text ≠ [])
    (hbefore : ∀ c ∈ before, isBlank c = true) (htext : ∀ c ∈ text, isBlank c = false)
    (hafter : ∀ c ∈ after, isBlank c = true) : trim (before ++ (text ++ after)) = text := by
  have hreverse : ∀ c ∈ text.reverse, isBlank c = false := by simpa using htext
  have hback : text.reverse.dropWhile isBlank = text.reverse := by
    simpa using dropWhile_isBlank_append (by simpa using hne) hreverse []
  rw [trim, List.dropWhile_append_of_pos hbefore, dropWhile_isBlank_append hne htext after,
    List.reverse_append, List.dropWhile_append_of_pos (by simpa using hafter), hback,
    List.reverse_reverse]

theorem isBlank_of_isDigit {c : Char} (h : c.isDigit = true) : Text.isBlank c = false := by
  have hcode := Char.isDigit_iff_toNat.1 h
  simp only [Char.reduceToNat] at hcode
  simp [Text.isBlank]
  omega

theorem wholeText_ne_nil (i : Int) : wholeText i ≠ [] := by
  unfold wholeText
  split <;> simp [Nat.toDigits_ne_nil]

theorem isBlank_of_mem_wholeText {i : Int} : ∀ c ∈ wholeText i, Text.isBlank c = false := by
  have hdigits : ∀ c ∈ Nat.toDigits 10 i.natAbs, Text.isBlank c = false :=
    fun c hc => isBlank_of_isDigit (Nat.isDigit_of_mem_toDigits (by decide) (by decide) hc)
  unfold wholeText
  split
  · exact List.forall_mem_cons.2 ⟨by decide, hdigits⟩
  · exact hdigits

theorem Decimal.writes_wholeText (i : Int) :
    Writes (wholeText i) ⟨decide (i < 0), i.natAbs, 0⟩ := by
  have hdigits := writesDigits_toDigits i.natAbs
  unfold wholeText
  split
  · next h => simpa [h] using writes_whole .minus hdigits
  · next h => simpa [h] using writes_whole .nothing hdigits

theorem Binary64.ofWhole_zero (h : (0 : Int).natAbs < 2 ^ 64) : ofWhole 0 h = zero false := by
  have hunits : roundUnits ((0 : Int).natAbs * unitsPerOne) 1 = 0 := by
    rw [Int.natAbs_zero, Nat.zero_mul]
    exact roundUnits_of_onGrid (zero false).onGrid
  simp only [ofWhole, hunits]
  rfl

theorem Decimal.toBinary64?_whole {i : Int} (h : i.natAbs < 2 ^ 64) :
    toBinary64? ⟨decide (i < 0), i.natAbs, 0⟩ = some (.ofWhole i h) := by
  unfold toBinary64?
  by_cases h0 : i = 0
  · subst h0
    simp [Binary64.ofWhole_zero]
  · have hne : i.natAbs ≠ 0 := Int.natAbs_ne_zero.2 h0
    have hrange : roundUnits (i.natAbs * Binary64.unitsPerOne) 1 < 2 ^ topExponent :=
      Binary64.roundUnits_whole_lt h
    simp [hne, Binary64.ofRatio?, hrange, Binary64.ofWhole]

/-! ## Whole numbers as values -/

/-- The value is the whole number, or a string of its decimal text with blanks at the ends. -/
inductive Value.GivesWhole : Value → Int → Prop
  | num {i : Int} (range : -(2 ^ 63) ≤ i ∧ i < 2 ^ 64) : GivesWhole (.num (.whole i range)) i
  | str {s : String} {i : Int} (range : -(2 ^ 63) ≤ i ∧ i < 2 ^ 64) {before after : List Char}
      (hbefore : ∀ c ∈ before, Text.isBlank c = true)
      (hafter : ∀ c ∈ after, Text.isBlank c = true)
      (htext : s.toList = before ++ (wholeText i ++ after)) : GivesWhole (.str s) i

/-- However it is given, a whole number counts as the nearest binary64 number. -/
theorem Value.GivesWhole.counts {v : Value} {i : Int} (h : v.GivesWhole i) :
    ∃ hi, v.Counts (.ofWhole i hi) := by
  cases h with
  | num range => exact ⟨by omega, .num (.whole i range)⟩
  | @str s _ range before after hbefore hafter htext =>
    have hi : i.natAbs < 2 ^ 64 := by omega
    have htrim : Text.trim s.toList = wholeText i := by
      rw [htext]
      exact Text.trim_append (wholeText_ne_nil i) hbefore isBlank_of_mem_wholeText hafter
    refine ⟨hi, .str ?_ (Decimal.toBinary64?_whole hi)⟩
    rw [htrim]
    exact Decimal.writes_wholeText i

/-- Up to `2 ^ 53` whole numbers are in the order of what they count as. -/
theorem Binary64.scaled_ofWhole_lt_iff {i j : Int} (hi : i.natAbs < 2 ^ 64) (hj : j.natAbs < 2 ^ 64)
    (hi' : i.natAbs ≤ 2 ^ 53) (hj' : j.natAbs ≤ 2 ^ 53) :
    (ofWhole i hi).scaled < (ofWhole j hj).scaled ↔ i < j := by
  have hpos : (0 : Int) < unitsPerOne := Int.natCast_pos.2 unitsPerOne_pos
  rw [scaled_ofWhole hi hi', scaled_ofWhole hj hj']
  exact Int.mul_lt_mul_right hpos

/-- **Whole numbers are compared in order**, be they given as numbers or in decimal. The lesser is
never found to be greater, and up to `2 ^ 53` all four operators are exact. -/
theorem wholeNumbers_in_order (mode : CaseMode) {a b : Value} {l r : Int} (ha : a.GivesWhole l)
    (hb : b.GivesWhole r) :
    (l < r → mode.Accepts a "lessThanOrEquals" b ∧ mode.Rejects a "greaterThan" b) ∧
      (l.natAbs ≤ 2 ^ 53 → r.natAbs ≤ 2 ^ 53 →
        mode.Decides a "lessThan" b (l < r) ∧ mode.Decides a "lessThanOrEquals" b (l ≤ r) ∧
          mode.Decides a "greaterThan" b (l > r) ∧
          mode.Decides a "greaterThanOrEquals" b (l ≥ r)) := by
  obtain ⟨hl, hx⟩ := ha.counts
  obtain ⟨hr, hy⟩ := hb.counts
  constructor
  · intro hlt
    have hle := Binary64.scaled_ofWhole_le hl hr (Int.le_of_lt hlt)
    rw [CaseMode.decides_lessThanOrEquals.accepts_iff, CaseMode.decides_greaterThan.rejects_iff,
      Value.countsStand_iff hx hy, Value.countsStand_iff hy hx]
    exact ⟨hle, Int.not_lt.2 hle⟩
  · intro hl' hr'
    have hless : Value.CountsStand (· < ·) a b ↔ l < r := by
      rw [Value.countsStand_iff hx hy, Binary64.scaled_ofWhole_lt_iff hl hr hl' hr']
    have hgreater : Value.CountsStand (· < ·) b a ↔ l > r := by
      rw [Value.countsStand_iff hy hx, Binary64.scaled_ofWhole_lt_iff hr hl hr' hl']
    have hlessEqual : Value.CountsStand (· ≤ ·) a b ↔ l ≤ r := by
      rw [Value.countsStand_iff hx hy, ← Int.not_lt, ← Int.not_lt,
        Binary64.scaled_ofWhole_lt_iff hr hl hr' hl']
    have hgreaterEqual : Value.CountsStand (· ≤ ·) b a ↔ l ≥ r := by
      rw [Value.countsStand_iff hy hx, ← Int.not_lt, ge_iff_le, ← Int.not_lt,
        Binary64.scaled_ofWhole_lt_iff hl hr hl' hr']
    rw [← hless, ← hgreater, ← hlessEqual, ← hgreaterEqual]
    exact ⟨CaseMode.decides_lessThan, CaseMode.decides_lessThanOrEquals,
      CaseMode.decides_greaterThan, CaseMode.decides_greaterThanOrEquals⟩

/-- The greatest exact whole number, its successor in decimal, and what is below both. -/
theorem wholeNumbers_in_order_bound :
    let bound : Value := .num (.whole (2 ^ 53) (by decide))
    let next : Value := .str "\u3000 9007199254740993\n"
    let below : Value := .str "-7"
    CaseMode.ignored.Accepts bound "lessThanOrEquals" next ∧
      CaseMode.ignored.Rejects bound "greaterThan" next ∧
      CaseMode.ignored.Rejects bound "lessThan" next ∧
      CaseMode.ignored.Accepts below "lessThan" bound := by
  intro bound next below
  have hbound : bound.GivesWhole (2 ^ 53) := .num _
  have hnext : next.GivesWhole (2 ^ 53 + 1) :=
    .str (by decide) (List.all_eq_true.1 (rfl : ['\u3000', ' '].all Text.isBlank = true))
      (List.all_eq_true.1 (rfl : ['\n'].all Text.isBlank = true)) (by decide +kernel)
  have hbelow : below.GivesWhole (-7) :=
    .str (by decide) (List.forall_mem_nil _) (List.forall_mem_nil _) (by decide +kernel)
  have hneighbours := (wholeNumbers_in_order .ignored hbound hnext).1 (by decide)
  have hexact := (wholeNumbers_in_order .ignored hbelow hbound).2 (by decide) (by decide)
  exact ⟨hneighbours.1, hneighbours.2, by decide +kernel, hexact.1.accepts_iff.2 (by decide)⟩

end Rulebook
