import Mathlib.Tactic.SplitIfs
import Rulebook.Number.Numeral
import Rulebook.Proofs.Text.Utf8
import Rulebook.Text.Percent

/-!
# URL-safe texts

`UrlWrites` reads a text as a component of a URL: an unreserved character stands for itself, and a
percent sign with two hexadecimal digits for a byte. Nothing else is URL-safe, and a text stands for
one sequence of bytes only (`UrlWrites.unique`).

**Theorem (`urlWrites_percentEncode_iff`).** The percent encoding of a text stands for the bytes of
its UTF-8 form, and for no others. So it is always URL-safe.
-/

namespace Rulebook.Text

/-- The text is URL-safe and stands for these bytes. -/
inductive UrlWrites : List Char → List UInt8 → Prop
  | nil : UrlWrites [] []
  | unreserved {c : Char} {cs : List Char} {bytes : List UInt8} (hc : isUnreserved c = true)
      (h : UrlWrites cs bytes) : UrlWrites (c :: cs) (c.toUInt8 :: bytes)
  | escaped {high low : Char} {m n : Nat} {cs : List Char} {bytes : List UInt8}
      (hhigh : hexDigit? high = some m) (hlow : hexDigit? low = some n) (h : UrlWrites cs bytes) :
      UrlWrites ('%' :: high :: low :: cs) (UInt8.ofNat (16 * m + n) :: bytes)

/-- The text consists of unreserved characters and of percent signs with two hexadecimal digits. -/
def UrlSafe (cs : List Char) : Prop := ∃ bytes, UrlWrites cs bytes

variable {cs cs' : List Char} {bytes bytes' : List UInt8} {c : Char}

theorem UrlWrites.append (h : UrlWrites cs bytes) (h' : UrlWrites cs' bytes') :
    UrlWrites (cs ++ cs') (bytes ++ bytes') := by
  induction h with
  | nil => exact h'
  | unreserved hc _ ih => exact .unreserved hc ih
  | escaped hhigh hlow _ ih => exact .escaped hhigh hlow ih

theorem not_isUnreserved_percent : isUnreserved '%' ≠ true := by decide

/-- A percent sign is never taken for itself, so there is one way to read the text. -/
theorem UrlWrites.unique (h : UrlWrites cs bytes) (h' : UrlWrites cs bytes') : bytes = bytes' := by
  induction h generalizing bytes' with
  | nil =>
    cases h'
    rfl
  | unreserved hc _ ih =>
    cases h' with
    | unreserved _ h' => rw [ih h']
    | escaped => exact absurd hc not_isUnreserved_percent
  | escaped hhigh hlow _ ih =>
    cases h' with
    | unreserved hc => exact absurd hc not_isUnreserved_percent
    | escaped hhigh' hlow' h' =>
      obtain rfl := Option.some.inj (hhigh.symm.trans hhigh')
      obtain rfl := Option.some.inj (hlow.symm.trans hlow')
      rw [ih h']

theorem urlSafe_of_isUnreserved (h : ∀ c ∈ cs, isUnreserved c = true) : UrlSafe cs := by
  induction cs with
  | nil => exact ⟨[], .nil⟩
  | cons c cs ih =>
    obtain ⟨hc, hcs⟩ := List.forall_mem_cons.1 h
    obtain ⟨bytes, hbytes⟩ := ih hcs
    exact ⟨_, .unreserved hc hbytes⟩

theorem isAlphanum_iff_toNat : c.isAlphanum = true ↔
    ((0x41 ≤ c.toNat ∧ c.toNat ≤ 0x5A) ∨ (0x61 ≤ c.toNat ∧ c.toNat ≤ 0x7A)) ∨
      (0x30 ≤ c.toNat ∧ c.toNat ≤ 0x39) := by
  have hupper : c.isUpper = true ↔ 0x41 ≤ c.toNat ∧ c.toNat ≤ 0x5A := decide_eq_true_iff
  have hlower : c.isLower = true ↔ 0x61 ≤ c.toNat ∧ c.toNat ≤ 0x7A := by
    show (decide (0x61 ≤ c.toNat) && decide (c.toNat ≤ 0x7A)) = true ↔ _
    rw [Bool.and_eq_true, decide_eq_true_iff, decide_eq_true_iff]
  have halpha : c.isAlpha = true ↔ c.isUpper = true ∨ c.isLower = true := Bool.or_eq_true_iff
  have halphanum : c.isAlphanum = true ↔ c.isAlpha = true ∨ c.isDigit = true := Bool.or_eq_true_iff
  rw [halphanum, halpha, hupper, hlower, Char.isDigit_iff_toNat]
  rfl

theorem isUnreserved_of_hexDigit? {n : Nat} (h : hexDigit? c = some n) :
    isUnreserved c = true := by
  have halpha : c.isAlphanum = true := by
    rw [isAlphanum_iff_toNat]
    simp only [hexDigit?, Char.isDigit_iff_toNat, Char.le_def, UInt32.le_iff_toNat_le,
      Char.toNat_val, Char.reduceToNat] at h
    split_ifs at h <;> omega
  simp [isUnreserved, halpha]

/-- No other characters than these are safe. -/
theorem isUnreserved_or_eq_percent (h : UrlWrites cs bytes) (hc : c ∈ cs) :
    isUnreserved c = true ∨ c = '%' := by
  induction h with
  | nil => exact absurd hc List.not_mem_nil
  | unreserved hfirst _ ih =>
    rcases List.mem_cons.1 hc with rfl | hc
    · exact .inl hfirst
    · exact ih hc
  | escaped hhigh hlow _ ih =>
    simp only [List.mem_cons] at hc
    rcases hc with rfl | rfl | rfl | hc
    · exact .inr rfl
    · exact .inl (isUnreserved_of_hexDigit? hhigh)
    · exact .inl (isUnreserved_of_hexDigit? hlow)
    · exact ih hc

theorem not_urlSafe_of_mem (hmem : c ∈ cs) (hc : isUnreserved c = false) (hpercent : c ≠ '%') :
    ¬ UrlSafe cs := by
  rintro ⟨bytes, h⟩
  rcases isUnreserved_or_eq_percent h hmem with hunreserved | rfl
  · exact absurd hunreserved (by simp [hc])
  · exact hpercent rfl

/-! ## Percent encoding -/

theorem hexDigit?_toUpper_digitChar {n : Nat} (h : n < 16) :
    hexDigit? (Nat.digitChar n).toUpper = some n := by
  have hall : ∀ n < 16, hexDigit? (Nat.digitChar n).toUpper = some n := by decide
  exact hall n h

theorem urlWrites_percentByte (b : UInt8) : UrlWrites (percentByte b) [b] := by
  have hb := b.toNat_lt
  have hvalue : UInt8.ofNat (16 * (b.toNat / 16) + b.toNat % 16) = b := by
    rw [Nat.div_add_mod, UInt8.ofNat_toNat]
  have h := UrlWrites.escaped (hexDigit?_toUpper_digitChar (n := b.toNat / 16) (by omega))
    (hexDigit?_toUpper_digitChar (n := b.toNat % 16) (by omega)) .nil
  rwa [hvalue] at h

theorem urlWrites_flatMap_percentByte (bytes : List UInt8) :
    UrlWrites (bytes.flatMap percentByte) bytes := by
  induction bytes with
  | nil => exact .nil
  | cons b bytes ih => exact (urlWrites_percentByte b).append ih

/-- An unreserved character is its own only byte. -/
theorem utf8EncodeChar_of_isUnreserved (h : isUnreserved c = true) :
    String.utf8EncodeChar c = [c.toUInt8] := by
  have hcode : c.toNat ≤ 127 := by
    simp only [isUnreserved, Bool.or_eq_true, beq_iff_eq, isAlphanum_iff_toNat] at h
    rcases h with (((halpha | rfl) | rfl) | rfl) | rfl
    · omega
    all_goals decide
  exact String.utf8EncodeChar_eq_singleton
    (Char.utf8Size_eq_one_iff.2 (UInt32.le_iff_toNat_le.2 hcode))

theorem urlWrites_percentEncode (cs : List Char) :
    UrlWrites (percentEncode cs) (cs.flatMap String.utf8EncodeChar) := by
  induction cs with
  | nil => exact .nil
  | cons c cs ih =>
    rw [percentEncode, List.flatMap_cons, List.flatMap_cons, ← percentEncode]
    refine UrlWrites.append ?_ ih
    split
    · next hc =>
      rw [utf8EncodeChar_of_isUnreserved hc]
      exact .unreserved hc .nil
    · exact urlWrites_flatMap_percentByte _

/-- **What an encoded text stands for.** -/
theorem urlWrites_percentEncode_iff {s : String} :
    UrlWrites (percentEncode s.toList) bytes ↔ bytes = s.toUTF8.data.toList := by
  have hbytes : s.toUTF8.data.toList = s.toList.flatMap String.utf8EncodeChar := utf8_eq_flatMap s
  have hwrites := urlWrites_percentEncode s.toList
  rw [hbytes]
  constructor
  · intro h
    exact h.unique hwrites
  · rintro rfl
    exact hwrites

end Rulebook.Text
