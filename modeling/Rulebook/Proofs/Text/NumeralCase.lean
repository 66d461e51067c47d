import Mathlib.Data.List.Basic
import Mathlib.Data.List.TakeWhile
import Rulebook.Number.Numeral
import Rulebook.Text.Blank
import Rulebook.Text.Lowercase

/-!
# The case of numerals

A text that denotes a finite number is written with digits, signs, a point and the letter of the
exponent, between blanks. Of these only the letter has two cases, and it counts in both. No other
character is lower-cased to one of them, although the lower case of some is an ASCII letter. So
lower-casing a text changes nothing about the number that it denotes (`readFinite?_lowercase`).
-/

namespace Rulebook

/-- The finite number that a text denotes when trimmed. -/
def Numeral.readFinite? (cs : List Char) : Option Binary64 :=
  (Numeral.read? (Text.trim cs)).bind Numeral.finite?

namespace Text

/-- Characters that finite numbers are written with. -/
def isNumeral (c : Char) : Bool :=
  c.isDigit || c == '+' || c == '-' || c == '.' || c == 'e' || c == 'E'

/-- The lower case of a character that numbers are written with. -/
def small (c : Char) : Char := if c = 'E' then 'e' else c

@[simp] theorem isDigit_small (c : Char) : (small c).isDigit = c.isDigit := by
  unfold small
  split
  · next h => rw [h]; decide
  · rfl

theorem small_of_isDigit {c : Char} (h : c.isDigit = true) : small c = c := by
  have hne : c ≠ 'E' := by
    rintro rfl
    exact absurd h (by decide)
  rw [small, if_neg hne]

theorem map_small_of_isDigit {cs : List Char} (h : ∀ c ∈ cs, c.isDigit = true) :
    cs.map small = cs :=
  (List.map_congr_left fun c hc => small_of_isDigit (h c hc)).trans (List.map_id cs)

@[simp] theorem toLower_small (c : Char) : (small c).toLower = c.toLower := by
  unfold small
  split
  · next h => rw [h]; decide
  · rfl

@[simp] theorem isBlank_small (c : Char) : isBlank (small c) = isBlank c := by
  unfold small
  split
  · next h => rw [h]; decide
  · rfl

theorem small_eq_iff {c d : Char} (he : d ≠ 'e') (hE : d ≠ 'E') : small c = d ↔ c = d := by
  unfold small
  split
  · next h => simp [h, he.symm, hE.symm]
  · rfl

end Text

/-! ## Reading with the exponent's letter in either case -/

open Text (small isNumeral isBlank trim)

theorem splitDigits_map_small (cs : List Char) :
    splitDigits (cs.map small) = ((splitDigits cs).1, (splitDigits cs).2.map small) := by
  have hdigit : (Char.isDigit ∘ small) = Char.isDigit := funext Text.isDigit_small
  have htake : (cs.takeWhile Char.isDigit).map small = cs.takeWhile Char.isDigit :=
    Text.map_small_of_isDigit fun c hc => List.mem_takeWhile_imp hc
  rw [splitDigits, splitDigits, List.takeWhile_map, List.dropWhile_map, hdigit, htake]

theorem splitSign_map_small (cs : List Char) :
    splitSign (cs.map small) = ((splitSign cs).1, (splitSign cs).2.map small) := by
  cases cs with
  | nil => rfl
  | cons c rest =>
    by_cases hminus : c = '-'
    · subst hminus
      rfl
    · by_cases hplus : c = '+'
      · subst hplus
        rfl
      · have hminus' : small c ≠ '-' := fun h =>
          hminus ((Text.small_eq_iff (by decide) (by decide)).1 h)
        have hplus' : small c ≠ '+' := fun h =>
          hplus ((Text.small_eq_iff (by decide) (by decide)).1 h)
        simp [splitSign, hminus, hplus, hminus', hplus']

theorem readDigits?_map_small (cs : List Char) : readDigits? (cs.map small) = readDigits? cs := by
  have hall : (cs.map small).all Char.isDigit = cs.all Char.isDigit := by
    simp [List.all_map, Function.comp_def]
  by_cases h : cs.all Char.isDigit
  · rw [Text.map_small_of_isDigit (List.all_eq_true.1 h)]
  · simp [readDigits?, hall, h]

theorem readInteger?_map_small (cs : List Char) :
    readInteger? (cs.map small) = readInteger? cs := by
  rw [readInteger?, readInteger?, splitSign_map_small, readDigits?_map_small]

namespace Decimal

theorem readExponent?_map_small (cs : List Char) :
    readExponent? (cs.map small) = readExponent? cs := by
  cases cs with
  | nil => rfl
  | cons c rest =>
    have hmark : (small c = 'e' ∨ small c = 'E') ↔ (c = 'e' ∨ c = 'E') := by
      unfold small
      split
      · next h => simp [h]
      · rfl
    simp only [List.map_cons, readExponent?, hmark, readInteger?_map_small]

theorem read?_map_small (negative : Bool) (cs : List Char) :
    read? negative (cs.map small) = read? negative cs := by
  simp only [read?, splitDigits_map_small]
  cases hrest : (splitDigits cs).2 with
  | nil => rfl
  | cons c rest =>
    by_cases hpoint : c = '.'
    · subst hpoint
      have hsmall : small '.' = '.' := by decide
      simp only [List.map_cons, hsmall, splitDigits_map_small, readExponent?_map_small]
    · have hpoint' : small c ≠ '.' := fun h =>
        hpoint ((Text.small_eq_iff (by decide) (by decide)).1 h)
      have hexp := readExponent?_map_small (c :: rest)
      rw [List.map_cons] at hexp
      simp [hpoint, hpoint', hexp]

end Decimal

namespace Numeral

theorem read?_map_small (cs : List Char) : read? (cs.map small) = read? cs := by
  have hword : (((splitSign cs).2.map small).map Char.toLower) =
      (splitSign cs).2.map Char.toLower := by
    rw [List.map_map]
    exact List.map_congr_left fun c _ => Text.toLower_small c
  simp only [read?, splitSign_map_small, hword, Decimal.read?_map_small]

end Numeral

/-! ## Finite numbers have numeral characters only -/

theorem mem_of_splitSign {cs : List Char} {c : Char} (hc : c ∈ cs) :
    c = '-' ∨ c = '+' ∨ c ∈ (splitSign cs).2 := by
  unfold splitSign
  split
  · rcases List.mem_cons.1 hc with rfl | hc
    · exact .inl rfl
    · exact .inr (.inr hc)
  · rcases List.mem_cons.1 hc with rfl | hc
    · exact .inr (.inl rfl)
    · exact .inr (.inr hc)
  · exact .inr (.inr hc)

theorem mem_of_splitDigits {cs : List Char} {c : Char} (hc : c ∈ cs) :
    c.isDigit = true ∨ c ∈ (splitDigits cs).2 := by
  rw [← List.takeWhile_append_dropWhile (p := Char.isDigit) (l := cs), List.mem_append] at hc
  exact hc.imp_left List.mem_takeWhile_imp

theorem isNumeral_of_readInteger? {cs : List Char} {i : Int} (h : readInteger? cs = some i) :
    ∀ c ∈ cs, isNumeral c = true := by
  intro c hc
  obtain ⟨n, hn, -⟩ := Option.map_eq_some_iff.1 h
  unfold readDigits? at hn
  split at hn
  · next hdigits =>
    rcases mem_of_splitSign hc with rfl | rfl | hc
    · decide
    · decide
    · simp [isNumeral, List.all_eq_true.1 hdigits.2 c hc]
  · cases hn

theorem Decimal.isNumeral_of_readExponent? {cs : List Char} {i : Int}
    (h : readExponent? cs = some i) : ∀ c ∈ cs, isNumeral c = true := by
  cases cs with
  | nil => exact fun c hc => absurd hc List.not_mem_nil
  | cons d rest =>
    rw [readExponent?] at h
    split at h
    · next hmark =>
      refine List.forall_mem_cons.2 ⟨?_, isNumeral_of_readInteger? h⟩
      rcases hmark with rfl | rfl <;> decide
    · cases h

theorem Decimal.isNumeral_of_read? {negative : Bool} {cs : List Char} {d : Decimal}
    (h : read? negative cs = some d) : ∀ c ∈ cs, isNumeral c = true := by
  intro c hc
  rcases mem_of_splitDigits hc with hdigit | hc
  · simp [isNumeral, hdigit]
  · simp only [read?] at h
    split at h
    · next tail htail =>
      obtain ⟨-, h⟩ := Option.ite_none_left_eq_some.1 h
      obtain ⟨i, hi, -⟩ := Option.map_eq_some_iff.1 h
      rw [htail] at hc
      rcases List.mem_cons.1 hc with rfl | hc
      · decide
      · rcases mem_of_splitDigits hc with hdigit | hc
        · simp [isNumeral, hdigit]
        · exact isNumeral_of_readExponent? hi c hc
    · obtain ⟨-, h⟩ := Option.ite_none_left_eq_some.1 h
      obtain ⟨i, hi, -⟩ := Option.map_eq_some_iff.1 h
      exact isNumeral_of_readExponent? hi c hc

theorem Numeral.isNumeral_of_finite {cs : List Char} {x : Binary64}
    (h : (read? cs).bind finite? = some x) : ∀ c ∈ cs, isNumeral c = true := by
  intro c hc
  simp only [read?] at h
  split at h
  · cases h
  · split at h
    · cases h
    · obtain ⟨n, hn, -⟩ := Option.bind_eq_some_iff.1 h
      obtain ⟨d, hd, -⟩ := Option.map_eq_some_iff.1 hn
      rcases mem_of_splitSign hc with rfl | rfl | hc
      · decide
      · decide
      · exact Decimal.isNumeral_of_read? hd c hc

/-! ## Trimming -/

namespace Text

theorem mem_dropWhile_of_not {p : Char → Bool} {cs : List Char} {c : Char} (hc : c ∈ cs)
    (hp : p c = false) : c ∈ cs.dropWhile p := by
  rw [← List.takeWhile_append_dropWhile (p := p) (l := cs), List.mem_append] at hc
  refine hc.resolve_left fun h => ?_
  exact absurd (List.mem_takeWhile_imp h) (by simp [hp])

theorem mem_trim {cs : List Char} {c : Char} (hc : c ∈ cs) (hblank : isBlank c = false) :
    c ∈ trim cs := by
  rw [trim, List.mem_reverse]
  refine mem_dropWhile_of_not ?_ hblank
  rw [List.mem_reverse]
  exact mem_dropWhile_of_not hc hblank

theorem trim_map_small (cs : List Char) : trim (cs.map small) = (trim cs).map small := by
  have hblank : (isBlank ∘ small) = isBlank := funext isBlank_small
  rw [trim, trim, List.dropWhile_map, hblank, ← List.map_reverse, List.dropWhile_map, hblank,
    ← List.map_reverse]

/-! ## Lower-casing -/

/-- May the character stand in a text that denotes a finite number? -/
def isPlain (c : Char) : Bool := isNumeral c || isBlank c

/-- The code points of the plain characters. -/
def plainCodes : List Nat :=
  List.range' 9 5 ++ List.range' 0x30 10 ++ List.range' 0x2000 11 ++
    [0x20, 0x2B, 0x2D, 0x2E, 0x45, 0x65, 0x85, 0xA0, 0x1680, 0x2028, 0x2029, 0x202F, 0x205F, 0x3000]

theorem mem_plainCodes {c : Char} (h : isPlain c = true) : c.toNat ∈ plainCodes := by
  have hchar (d : Char) : c = d ↔ c.toNat = d.toNat := Char.toNat_inj.symm
  simp only [isPlain, isNumeral, isBlank, Char.isDigit_iff_toNat, Bool.or_eq_true,
    Bool.and_eq_true, decide_eq_true_eq, beq_iff_eq, hchar, Char.reduceToNat] at h
  simp only [plainCodes, List.mem_append, List.mem_range'_1, List.mem_cons, List.not_mem_nil,
    or_false]
  omega

theorem lowerChar_of_isPlain {c : Char} (h : isPlain c = true) :
    c ≠ 'Σ' ∧ lowerChar c = [small c] := by
  have hall : ∀ n ∈ plainCodes, Char.ofNat n ≠ 'Σ' ∧
      lowerChar (Char.ofNat n) = [small (Char.ofNat n)] := by decide +kernel
  have hc := hall c.toNat (mem_plainCodes h)
  rwa [Char.ofNat_toNat] at hc

/-- No shift leads to the code point of a plain character, that of the ASCII letters apart. -/
theorem lowerShifts_not_plain : ∀ r ∈ lowerShifts, r = (0x41, 0x5A, 1, 32) ∨
    ∀ p ∈ plainCodes, (p : Int) < r.1 + r.2.2.2 ∨ r.2.1 + r.2.2.2 < (p : Int) := by
  decide +kernel

/-- Among the capital ASCII letters, only the plain one has a plain lower case. -/
theorem isPlain_of_isPlain_ascii : ∀ k ∈ List.range 26,
    isPlain (Char.ofNat (0x41 + k + 32)) = true → isPlain (Char.ofNat (0x41 + k)) = true := by
  decide +kernel

theorem mem_plainCodes_of_ofNat {n : Nat} (h : isPlain (Char.ofNat n) = true) :
    n ∈ plainCodes := by
  by_cases hvalid : n.isValidChar
  · rw [show Char.ofNat n = Char.ofNatAux n hvalid from dif_pos hvalid] at h
    exact mem_plainCodes h
  · rw [show Char.ofNat n = Char.ofNat 0 from dif_neg hvalid] at h
    exact absurd h (by decide)

theorem exists_not_isPlain_lowerChar {c : Char} (h : isPlain c = false) :
    ∃ d ∈ lowerChar c, isPlain d = false := by
  unfold lowerChar
  split
  · exact ⟨'i', List.mem_cons_self, by decide⟩
  · dsimp only
    split
    · next first last step shift hfind =>
      refine ⟨_, List.mem_singleton_self _, eq_false_of_ne_true fun hplain => ?_⟩
      have hin := List.find?_some hfind
      simp only [Bool.and_eq_true, decide_eq_true_eq] at hin
      obtain ⟨⟨hfirst, hlast⟩, -⟩ := hin
      rcases lowerShifts_not_plain _ (List.mem_of_find?_eq_some hfind) with hascii | hfar
      · obtain ⟨rfl, rfl, rfl, rfl⟩ : first = 0x41 ∧ last = 0x5A ∧ step = 1 ∧ shift = 32 := by
          simpa using hascii
        have hk : c.toNat - 0x41 ∈ List.range 26 := by
          rw [List.mem_range]
          omega
        have hn : 0x41 + (c.toNat - 0x41) = c.toNat := by omega
        have hc := isPlain_of_isPlain_ascii _ hk (by rw [hn]; exact hplain)
        rw [hn, Char.ofNat_toNat, h] at hc
        cases hc
      · have hmem := mem_plainCodes_of_ofNat hplain
        have hcode := hfar _ hmem
        have hpos : 0 < ((c.toNat : Int) + shift).toNat :=
          Nat.pos_of_ne_zero fun h0 => absurd (h0 ▸ hmem) (by decide)
        dsimp only at hcode
        omega
    · exact ⟨c, List.mem_singleton_self c, h⟩

/-- Plain characters are lower-cased each on its own. -/
theorem lowerAfter_of_isPlain (before : List Char) {cs : List Char}
    (h : ∀ c ∈ cs, isPlain c = true) : lowerAfter before cs = cs.map small := by
  induction cs generalizing before with
  | nil => rfl
  | cons c rest ih =>
    obtain ⟨hc, hrest⟩ := List.forall_mem_cons.1 h
    obtain ⟨hsigma, hlower⟩ := lowerChar_of_isPlain hc
    rw [lowerAfter, if_neg hsigma, hlower, ih _ hrest, List.map_cons, List.singleton_append]

/-- A character that is not plain leaves one that is not. -/
theorem exists_not_isPlain_lowerAfter (before : List Char) {cs : List Char}
    (h : ∃ c ∈ cs, isPlain c = false) : ∃ d ∈ lowerAfter before cs, isPlain d = false := by
  induction cs generalizing before with
  | nil => simp at h
  | cons c rest ih =>
    simp only [lowerAfter, List.mem_append]
    rcases (List.exists_mem_cons_iff _ _ _).1 h with hc | hrest
    · by_cases hsigma : c = 'Σ'
      · rw [if_pos hsigma]
        refine ⟨_, .inl (List.mem_singleton_self _), ?_⟩
        split <;> decide
      · obtain ⟨d, hd, hplain⟩ := exists_not_isPlain_lowerChar hc
        rw [if_neg hsigma]
        exact ⟨d, .inl hd, hplain⟩
    · obtain ⟨d, hd, hplain⟩ := ih (c :: before) hrest
      exact ⟨d, .inr hd, hplain⟩

end Text

/-! ## Numbers in lower case -/

namespace Numeral

theorem readFinite?_eq_none {cs : List Char} (h : ∃ c ∈ cs, Text.isPlain c = false) :
    readFinite? cs = none := by
  obtain ⟨c, hc, hplain⟩ := h
  rw [Text.isPlain, Bool.or_eq_false_iff] at hplain
  cases hx : readFinite? cs with
  | none => rfl
  | some x =>
    have hnumeral := isNumeral_of_finite hx c (Text.mem_trim hc hplain.2)
    rw [hplain.1] at hnumeral
    cases hnumeral

/-- **Lower-casing a text does not change the finite number it denotes**, or that it denotes
none. -/
theorem readFinite?_lowercase (cs : List Char) :
    readFinite? (Text.lowercase cs) = readFinite? cs := by
  by_cases h : ∃ c ∈ cs, Text.isPlain c = false
  · rw [readFinite?_eq_none h, Text.lowercase,
      readFinite?_eq_none (Text.exists_not_isPlain_lowerAfter [] h)]
  · have hplain : ∀ c ∈ cs, Text.isPlain c = true := fun c hc =>
      eq_true_of_ne_false fun hf => h ⟨c, hc, hf⟩
    rw [readFinite?, readFinite?, Text.lowercase, Text.lowerAfter_of_isPlain [] hplain,
      Text.trim_map_small, read?_map_small]

end Numeral
end Rulebook
