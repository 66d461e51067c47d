import Mathlib.Data.List.TakeWhile
import Rulebook.Proofs.Number.Digits

/-!
# Decimals in writing

`Decimal.Writes cs d` says that a text writes a decimal: a sign or none, digits with at most one
point among or beside them, and an exponent or none.

**Theorem (`Numeral.read?_eq_finite_iff`).** A text reads as a finite number if and only if it
writes a decimal that has a binary64 value, and this is the number. So no word does, and what the
digits go into does not matter but for its value.

Each part of a decimal is read up to a character that cannot belong to it: the digits end with the
point, with the letter of the exponent or with the text.
-/

namespace Rulebook

/-! ## Signs -/

/-- The text is a plus, a minus or nothing. -/
inductive WritesSign : List Char → Bool → Prop
  | nothing : WritesSign [] false
  | plus : WritesSign ['+'] false
  | minus : WritesSign ['-'] true

theorem exists_writesSign (cs : List Char) :
    ∃ sign, WritesSign sign (splitSign cs).1 ∧ cs = sign ++ (splitSign cs).2 := by
  unfold splitSign
  split
  · exact ⟨_, .minus, rfl⟩
  · exact ⟨_, .plus, rfl⟩
  · exact ⟨_, .nothing, rfl⟩

theorem WritesSign.splitSign_append {sign rest : List Char} {negative : Bool}
    (h : WritesSign sign negative) (hrest : ∀ c, rest.head? = some c → c ≠ '-' ∧ c ≠ '+') :
    splitSign (sign ++ rest) = (negative, rest) := by
  cases h with
  | plus | minus => rfl
  | nothing =>
    rw [List.nil_append]
    unfold splitSign
    split
    · exact absurd rfl (hrest _ rfl).1
    · exact absurd rfl (hrest _ rfl).2
    · rfl

theorem ne_sign_of_isDigit {c : Char} (h : c.isDigit = true) : c ≠ '-' ∧ c ≠ '+' := by
  constructor <;> rintro rfl <;> exact absurd h (by decide)

theorem WritesDigits.isDigit_head? {cs : List Char} {n : Nat} (h : WritesDigits cs n) :
    ∀ c, cs.head? = some c → c.isDigit = true :=
  fun c hc => h.isDigit c (List.mem_of_head? hc)

theorem readInteger?_eq (cs : List Char) :
    readInteger? cs = (readDigits? (splitSign cs).2).map fun (n : Nat) =>
      if (splitSign cs).1 then -(n : Int) else n := by
  unfold readInteger?
  cases readDigits? (splitSign cs).2 <;> rfl

/-- A whole number with its sign. -/
theorem readInteger?_eq_some_iff {cs : List Char} {i : Int} :
    readInteger? cs = some i ↔
      ∃ sign digits negative n, cs = sign ++ digits ∧ WritesSign sign negative ∧
        WritesDigits digits n ∧ i = if negative then -(n : Int) else n := by
  rw [readInteger?_eq, Option.map_eq_some_iff]
  constructor
  · rintro ⟨n, hn, rfl⟩
    obtain ⟨sign, hsign, hcs⟩ := exists_writesSign cs
    exact ⟨sign, _, _, n, hcs, hsign, readDigits?_eq_some_iff.1 hn, rfl⟩
  · rintro ⟨sign, digits, negative, n, rfl, hsign, hdigits, rfl⟩
    rw [hsign.splitSign_append fun c hc => ne_sign_of_isDigit (hdigits.isDigit_head? c hc)]
    exact ⟨n, readDigits?_eq_some_iff.2 hdigits, rfl⟩

/-! ## Exponents -/

/-- The text is the letter of the exponent and a whole number, or nothing. -/
inductive WritesExponent : List Char → Int → Prop
  | nothing : WritesExponent [] 0
  | power {mark : Char} {sign digits : List Char} {negative : Bool} {n : Nat}
      (hmark : mark = 'e' ∨ mark = 'E') (hsign : WritesSign sign negative)
      (hdigits : WritesDigits digits n) :
      WritesExponent (mark :: (sign ++ digits)) (if negative then -(n : Int) else n)

theorem Decimal.readExponent?_eq_some_iff {cs : List Char} {e : Int} :
    readExponent? cs = some e ↔ WritesExponent cs e := by
  constructor
  · intro h
    cases cs with
    | nil => cases h; exact .nothing
    | cons mark rest =>
      obtain ⟨hmark, h⟩ := Option.ite_none_right_eq_some.1 h
      obtain ⟨sign, digits, negative, n, rfl, hsign, hdigits, rfl⟩ := readInteger?_eq_some_iff.1 h
      exact .power hmark hsign hdigits
  · intro h
    cases h with
    | nothing => rfl
    | power hmark hsign hdigits =>
      rw [readExponent?, if_pos hmark]
      exact readInteger?_eq_some_iff.2 ⟨_, _, _, _, rfl, hsign, hdigits, rfl⟩

theorem WritesExponent.head? {cs : List Char} {e : Int} (h : WritesExponent cs e) :
    ∀ c, cs.head? = some c → c.isDigit = false ∧ c ≠ '.' := by
  intro c hc
  cases h with
  | nothing => cases hc
  | power hmark =>
    cases hc
    rcases hmark with rfl | rfl <;> decide

/-! ## Digits and a point -/

theorem splitDigits_append_of_isDigit {digits rest : List Char}
    (hdigits : ∀ c ∈ digits, c.isDigit = true)
    (hrest : ∀ c, rest.head? = some c → c.isDigit = false) :
    splitDigits (digits ++ rest) = (digits, rest) := by
  rw [splitDigits, List.takeWhile_append_of_pos hdigits, List.dropWhile_append_of_pos hdigits]
  cases rest with
  | nil => simp
  | cons c rest => simp [hrest c rfl]

/-- The digits after a point, if one comes first, and the rest. -/
def splitPoint : List Char → List Char × List Char
  | '.' :: rest => splitDigits rest
  | rest => ([], rest)

/-- The text has these digits before a point and after it. Without a point none come after it. -/
inductive WritesPoint : List Char → List Char → List Char → Prop
  | without (whole : List Char) : WritesPoint whole whole []
  | within (whole fraction : List Char) : WritesPoint (whole ++ '.' :: fraction) whole fraction

/-- What is read as digits, point and digits is written so at the front of the text. -/
theorem exists_writesPoint (cs : List Char) {whole fraction tail rest : List Char}
    (hwhole : splitDigits cs = (whole, tail)) (hfraction : splitPoint tail = (fraction, rest)) :
    (∃ mantissa, WritesPoint mantissa whole fraction ∧ cs = mantissa ++ rest) ∧
      ∀ c ∈ whole ++ fraction, c.isDigit = true := by
  have hsplit (cs : List Char) : cs = (splitDigits cs).1 ++ (splitDigits cs).2 :=
    (List.takeWhile_append_dropWhile (p := Char.isDigit) (l := cs)).symm
  have hdigit (cs : List Char) : ∀ c ∈ (splitDigits cs).1, c.isDigit = true :=
    fun _ hc => List.mem_takeWhile_imp hc
  have hcs := hsplit cs
  have hfirst := hdigit cs
  rw [hwhole] at hcs hfirst
  unfold splitPoint at hfraction
  split at hfraction
  · next after =>
    have hafter := hsplit after
    have hsecond := hdigit after
    rw [hfraction] at hafter hsecond
    refine ⟨⟨_, .within whole fraction, ?_⟩, List.forall_mem_append.2 ⟨hfirst, hsecond⟩⟩
    rw [hcs, hafter, List.append_assoc, List.cons_append]
  · cases hfraction
    exact ⟨⟨_, .without whole, hcs⟩, by simpa using hfirst⟩

/-- Digits, point and digits are read as they are written, up to what cannot belong to them. -/
theorem WritesPoint.splitDigits_append {mantissa whole fraction rest : List Char}
    (h : WritesPoint mantissa whole fraction) (hdigits : ∀ c ∈ whole ++ fraction, c.isDigit = true)
    (hrest : ∀ c, rest.head? = some c → c.isDigit = false ∧ c ≠ '.') :
    ∃ tail, splitDigits (mantissa ++ rest) = (whole, tail) ∧
      splitPoint tail = (fraction, rest) := by
  obtain ⟨hwhole, hfraction⟩ := List.forall_mem_append.1 hdigits
  cases h with
  | without =>
    refine ⟨rest, splitDigits_append_of_isDigit hwhole fun c hc => (hrest c hc).1, ?_⟩
    unfold splitPoint
    split
    · exact absurd rfl (hrest _ rfl).2
    · rfl
  | within =>
    refine ⟨'.' :: (fraction ++ rest), ?_, ?_⟩
    · rw [List.append_assoc, List.cons_append]
      refine splitDigits_append_of_isDigit hwhole fun c hc => ?_
      cases hc
      decide
    · exact splitDigits_append_of_isDigit hfraction fun c hc => (hrest c hc).1

namespace Decimal

/-- The text writes the decimal, its sign apart. -/
inductive WritesMagnitude (negative : Bool) : List Char → Decimal → Prop
  | mk {mantissa whole fraction exponent : List Char} {e : Int}
      (hpoint : WritesPoint mantissa whole fraction)
      (hdigits : ∀ c ∈ whole ++ fraction, c.isDigit = true) (hne : whole ++ fraction ≠ [])
      (hexponent : WritesExponent exponent e) :
      WritesMagnitude negative (mantissa ++ exponent) (ofDigits negative whole fraction e)

/-- The text writes the decimal. -/
inductive Writes : List Char → Decimal → Prop
  | mk {sign magnitude : List Char} {negative : Bool} {d : Decimal}
      (hsign : WritesSign sign negative) (hmagnitude : WritesMagnitude negative magnitude d) :
      Writes (sign ++ magnitude) d

/-- A sign and digits write a whole number. -/
theorem writes_whole {sign digits : List Char} {negative : Bool} {n : Nat}
    (hsign : WritesSign sign negative) (hdigits : WritesDigits digits n) :
    Writes (sign ++ digits) ⟨negative, n, 0⟩ := by
  have h : WritesMagnitude negative _ _ :=
    .mk (.without digits) (by simpa using hdigits.isDigit) (by simp [hdigits.ne_nil]) .nothing
  exact .mk hsign (by simpa [ofDigits, hdigits.digitsValue] using h)

theorem read?_eq (negative : Bool) (cs : List Char) :
    read? negative cs =
      if (splitDigits cs).1 = [] ∧ (splitPoint (splitDigits cs).2).1 = [] then none
      else (readExponent? (splitPoint (splitDigits cs).2).2).map
        (ofDigits negative (splitDigits cs).1 (splitPoint (splitDigits cs).2).1) := rfl

theorem read?_eq_some_iff {negative : Bool} {cs : List Char} {d : Decimal} :
    read? negative cs = some d ↔ WritesMagnitude negative cs d := by
  constructor
  · intro h
    rw [read?_eq] at h
    rcases hwhole : splitDigits cs with ⟨whole, tail⟩
    rcases hfraction : splitPoint tail with ⟨fraction, rest⟩
    simp only [hwhole, hfraction] at h
    obtain ⟨hne, h⟩ := Option.ite_none_left_eq_some.1 h
    obtain ⟨e, he, rfl⟩ := Option.map_eq_some_iff.1 h
    obtain ⟨⟨mantissa, hpoint, rfl⟩, hdigits⟩ := exists_writesPoint cs hwhole hfraction
    exact .mk hpoint hdigits (by simpa using hne) (readExponent?_eq_some_iff.1 he)
  · intro h
    cases h with
    | mk hpoint hdigits hne hexponent =>
      obtain ⟨tail, hwhole, hfraction⟩ := hpoint.splitDigits_append hdigits hexponent.head?
      rw [read?_eq]
      simp only [hwhole, hfraction]
      rw [if_neg (by simpa using hne), readExponent?_eq_some_iff.2 hexponent, Option.map_some]

/-- A magnitude starts with a digit or with the point. -/
theorem WritesMagnitude.exists_cons {negative : Bool} {cs : List Char} {d : Decimal}
    (h : WritesMagnitude negative cs d) :
    ∃ c rest, cs = c :: rest ∧ (c.isDigit = true ∨ c = '.') := by
  cases h with
  | @mk mantissa whole fraction exponent e hpoint hdigits hne hexponent =>
    cases hpoint with
    | without =>
      cases mantissa with
      | nil => simp at hne
      | cons c _ => exact ⟨c, _, rfl, .inl (hdigits c (by simp))⟩
    | within =>
      cases whole with
      | nil => exact ⟨'.', _, rfl, .inr rfl⟩
      | cons c _ => exact ⟨c, _, rfl, .inl (hdigits c (by simp))⟩

end Decimal

/-! ## Numerals -/

namespace Numeral

theorem ofDecimal_eq_finite_iff {d : Decimal} {x : Binary64} :
    ofDecimal d = .finite x ↔ d.toBinary64? = some x := by
  unfold ofDecimal
  cases d.toBinary64? <;> simp

/-- What starts with a digit or a point does not start a word. -/
theorem toLower_ne_of_isDigit_or_point {c : Char} (h : c.isDigit = true ∨ c = '.') :
    c.toLower ≠ 'i' ∧ c.toLower ≠ 'n' := by
  rcases h with h | rfl
  · obtain ⟨hlt, hchar⟩ := digitChar_of_isDigit h
    have hall : ∀ k ∈ List.range 10,
        (Nat.digitChar k).toLower ≠ 'i' ∧ (Nat.digitChar k).toLower ≠ 'n' := by decide
    have hc := hall _ (List.mem_range.2 hlt)
    rwa [hchar] at hc
  · decide

theorem read?_of_writes {cs : List Char} {d : Decimal} (h : Decimal.Writes cs d) :
    read? cs = some (ofDecimal d) := by
  obtain ⟨hsign, hmagnitude⟩ := h
  have hread := Decimal.read?_eq_some_iff.2 hmagnitude
  obtain ⟨c, rest, rfl, hc⟩ := hmagnitude.exists_cons
  have hfirst : c ≠ '-' ∧ c ≠ '+' := by
    rcases hc with hc | rfl
    · exact ne_sign_of_isDigit hc
    · decide
  have hsplit := hsign.splitSign_append fun c' (hc' : (c :: rest).head? = some c') =>
    Option.some.inj hc' ▸ hfirst
  obtain ⟨hi, hn⟩ := toLower_ne_of_isDigit_or_point hc
  simp [read?, hsplit, hread, hi, hn]

/-- **Reading finite numbers.** A text reads as a finite number if and only if it writes a decimal
with this value. -/
theorem read?_eq_finite_iff {cs : List Char} {x : Binary64} :
    read? cs = some (.finite x) ↔ ∃ d, Decimal.Writes cs d ∧ d.toBinary64? = some x := by
  constructor
  · intro h
    obtain ⟨sign, hsign, hcs⟩ := exists_writesSign cs
    simp only [read?] at h
    split at h
    · cases h
    · split at h
      · cases h
      · obtain ⟨d, hd, hx⟩ := Option.map_eq_some_iff.1 h
        rw [hcs]
        exact ⟨d, .mk hsign (Decimal.read?_eq_some_iff.1 hd), ofDecimal_eq_finite_iff.1 hx⟩
  · rintro ⟨d, hd, hx⟩
    rw [read?_of_writes hd, ofDecimal_eq_finite_iff.2 hx]

end Numeral
end Rulebook
