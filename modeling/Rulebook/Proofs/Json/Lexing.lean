import Rulebook.Json.Lexeme
import Rulebook.Proofs.Result

/-!
# The lexemes of a text in brackets

**Theorem (`lex_brackets`).** A text all lexemes of which are whole keeps them when it is put in
brackets: the lexemes of the longer text are those of the brackets and, between them, those of the
text.

A string ends with its quote and a word with its last letter, whatever follows. A number goes on as
far as it can, but not into a closing bracket (`scanNumber_append`). So each lexeme of the text is
read as before (`firstLexeme_append`), and since none takes more characters than are left in the
text, the bracket after it is read as a lexeme of its own.
-/

namespace Rulebook.Json

/-! ## Strings and words -/

/-- What a string reads as when it starts with a piece that is so wide. -/
def startWith (piece : Piece) (width : Nat) : StringText × Nat → StringText × Nat
  | (s, n) => (⟨piece :: s.pieces, s.broken⟩, n + width)

theorem scanString_unit {a b c d : Char} {n : Nat} (h : hexUnit? a b c d = some n)
    (rest : List Char) :
    scanString ('\\' :: 'u' :: a :: b :: c :: d :: rest) =
      startWith (.unit n) 6 (scanString rest) := by
  rw [scanString, h]
  rfl

theorem scanString_escape {e c : Char} (hu : e ≠ 'u') (h : escapedChar? e = some c)
    (rest : List Char) :
    scanString ('\\' :: e :: rest) = startWith (.char c) 2 (scanString rest) := by
  rw [scanString, h]
  · rfl
  · exact fun _ _ _ _ _ he => absurd he hu
  · exact hu

theorem scanString_char {c : Char} (hquote : c ≠ '"') (hslash : c ≠ '\\') (hc : ¬ c.toNat < 0x20)
    (rest : List Char) : scanString (c :: rest) = startWith (.char c) 1 (scanString rest) := by
  rw [scanString, if_neg hc]
  · rfl
  all_goals simp [hquote, hslash]

/-- A string that ends is read the same whatever follows it. -/
theorem scanString_append (cs tail : List Char) (h : (scanString cs).1.broken = none) :
    scanString (cs ++ tail) = scanString cs ∧ (scanString cs).2 ≤ cs.length := by
  fun_induction scanString cs with
  | case1 | case4 | case5 | case7 | case8 | case9 => cases h
  | case2 => exact ⟨by rw [List.cons_append, scanString], Nat.le_add_left 1 _⟩
  | case3 a b c d rest n hn s width hs ih =>
    rw [hs] at ih
    obtain ⟨heq, hle⟩ := ih h
    refine ⟨?_, Nat.add_le_add_right hle 6⟩
    simp only [List.cons_append]
    rw [scanString_unit hn, heq, startWith]
  | case6 e rest _ hu c hc s width hs ih =>
    rw [hs] at ih
    obtain ⟨heq, hle⟩ := ih h
    refine ⟨?_, Nat.add_le_add_right hle 2⟩
    simp only [List.cons_append]
    rw [scanString_escape hu hc, heq, startWith]
  | case10 c rest hquote _ _ hescape hlast hc s width hs ih =>
    rw [hs] at ih
    obtain ⟨heq, hle⟩ := ih h
    have hslash : c ≠ '\\' := by
      rintro rfl
      cases rest with
      | nil => exact hlast rfl rfl
      | cons e rest => exact hescape e rest rfl rfl
    refine ⟨?_, Nat.add_le_add_right hle 1⟩
    rw [List.cons_append, scanString_char hquote hslash hc, heq, startWith]

/-- A word that stands there stands there whatever follows it. -/
theorem breakInWord_append {word cs : List Char} (h : breakInWord word cs = none)
    (tail : List Char) : breakInWord word (cs ++ tail) = none ∧ word.length ≤ cs.length := by
  induction word generalizing cs with
  | nil => exact ⟨by cases cs ++ tail <;> rfl, Nat.zero_le _⟩
  | cons w word ih =>
    cases cs with
    | nil => cases h
    | cons c rest =>
      rw [breakInWord] at h
      split at h
      · next hw =>
        obtain ⟨hnone, hle⟩ := ih h
        rw [List.cons_append, breakInWord, if_pos hw]
        exact ⟨hnone, Nat.succ_le_succ hle⟩
      · cases h

/-- The lexeme of a word, if the word stands there. -/
def wordLexeme (word : String) (l : Lexeme) (cs : List Char) : Lexeme × Nat :=
  match breakInWord word.toList cs with
  | none => (l, word.length)
  | some b => (.brokenWord b, 1)

theorem wordLexeme_append {word : String} {l : Lexeme} {cs : List Char}
    (h : (wordLexeme word l cs).1.isBroken = false) (tail : List Char) :
    wordLexeme word l (cs ++ tail) = wordLexeme word l cs ∧
      (wordLexeme word l cs).2 ≤ cs.length := by
  unfold wordLexeme at h ⊢
  cases hb : breakInWord word.toList cs with
  | some b => simp [hb, Lexeme.isBroken] at h
  | none =>
    obtain ⟨hnone, hle⟩ := breakInWord_append hb tail
    rw [hnone]
    exact ⟨rfl, hle⟩

/-! ## Numbers -/

theorem splitDigits_append (cs : List Char) :
    splitDigits (cs ++ [']']) = ((splitDigits cs).1, (splitDigits cs).2 ++ [']']) := by
  induction cs with
  | nil => rfl
  | cons c rest ih =>
    simp only [splitDigits, Prod.mk.injEq] at ih ⊢
    rw [List.cons_append, List.takeWhile_cons, List.takeWhile_cons, List.dropWhile_cons,
      List.dropWhile_cons, ih.1, ih.2]
    split
    · exact ⟨rfl, rfl⟩
    · exact ⟨rfl, rfl⟩

theorem someDigits_append {cs digits rest : List Char} (h : someDigits cs = .ok (digits, rest)) :
    someDigits (cs ++ [']']) = .ok (digits, rest ++ [']']) := by
  unfold someDigits at h ⊢
  rw [splitDigits_append]
  rcases hsplit : splitDigits cs with ⟨found, after⟩
  rw [hsplit] at h
  cases found with
  | nil => simp at h
  | cons d found =>
    simp only [Except.ok.injEq, Prod.mk.injEq] at h ⊢
    exact ⟨h.1, congrArg (· ++ [']']) h.2⟩

theorem splitMinus_append (cs : List Char) :
    splitMinus (cs ++ [']']) = ((splitMinus cs).1, (splitMinus cs).2 ++ [']']) := by
  cases cs with
  | nil => rfl
  | cons c rest =>
    by_cases hc : c = '-'
    · subst hc
      rfl
    · simp [splitMinus, hc]

theorem splitSign_append (cs : List Char) :
    splitSign (cs ++ [']']) = ((splitSign cs).1, (splitSign cs).2 ++ [']']) := by
  cases cs with
  | nil => rfl
  | cons c rest =>
    by_cases hminus : c = '-'
    · subst hminus
      rfl
    · by_cases hplus : c = '+'
      · subst hplus
        rfl
      · simp [splitSign, hminus, hplus]

theorem scanFraction_append {cs rest : List Char} {fraction : Option (List Char)}
    (h : scanFraction cs = .ok (fraction, rest)) :
    scanFraction (cs ++ [']']) = .ok (fraction, rest ++ [']']) := by
  cases cs with
  | nil => cases h; rfl
  | cons c tail =>
    by_cases hc : c = '.'
    · subst hc
      rw [scanFraction] at h
      rw [List.cons_append, scanFraction]
      obtain ⟨⟨digits, after⟩, hdigits, hpair⟩ := map_eq_ok.1 h
      cases hpair
      rw [someDigits_append hdigits]
      rfl
    · have hnone (tail : List Char) : scanFraction (c :: tail) = .ok (none, c :: tail) := by
        simp [scanFraction, hc]
      rw [hnone] at h
      cases h
      rw [List.cons_append, hnone]

theorem scanExponent_append {cs rest : List Char} {exponent : Option Int}
    (h : scanExponent cs = .ok (exponent, rest)) :
    scanExponent (cs ++ [']']) = .ok (exponent, rest ++ [']']) := by
  cases cs with
  | nil => cases h; rfl
  | cons c tail =>
    rw [List.cons_append]
    by_cases hc : c = 'e' ∨ c = 'E'
    · simp only [scanExponent, if_pos hc, splitSign_append] at h ⊢
      obtain ⟨⟨digits, after⟩, hdigits, hpair⟩ := map_eq_ok.1 h
      cases hpair
      rw [someDigits_append hdigits]
      rfl
    · simp only [scanExponent, if_neg hc] at h ⊢
      cases h
      rfl

/-- A number does not go on into a closing bracket. -/
theorem scanNumber_append {cs : List Char} {n : NumberText} {width : Nat}
    (h : scanNumber cs = .ok (n, width)) :
    scanNumber (cs ++ [']']) = .ok (n, width) ∧ width ≤ cs.length := by
  unfold scanNumber at h ⊢
  obtain ⟨⟨whole, afterWhole⟩, hwhole, h⟩ := bind_eq_ok.1 h
  dsimp only at h
  split at h
  · cases h
  · next hzero =>
    obtain ⟨⟨fraction, afterFraction⟩, hfraction, h⟩ := bind_eq_ok.1 h
    obtain ⟨⟨exponent, rest⟩, hexponent, h⟩ := bind_eq_ok.1 h
    cases h
    have hwidth : (cs ++ [']']).length - (rest ++ [']']).length = cs.length - rest.length := by
      simp only [List.length_append, Nat.add_sub_add_right]
    refine ⟨?_, Nat.sub_le _ _⟩
    simp only [splitMinus_append, someDigits_append hwhole, scanFraction_append hfraction,
      scanExponent_append hexponent, bind, Except.bind, if_neg hzero, hwidth]
    rfl

/-! ## Texts -/

/-- **A lexeme is read as before** with a bracket after the text, and it is not longer than the
text. -/
theorem firstLexeme_append {c : Char} {rest : List Char}
    (h : (firstLexeme c rest).1.isBroken = false) :
    firstLexeme c (rest ++ [']']) = firstLexeme c rest ∧
      (firstLexeme c rest).2 ≤ (c :: rest).length := by
  have hone : 1 ≤ (c :: rest).length := Nat.le_add_left 1 _
  simp only [firstLexeme] at h ⊢
  split at h
  case h_1 | h_2 | h_3 | h_4 | h_5 | h_6 => exact ⟨rfl, hone⟩
  case h_7 =>
    simp only [Lexeme.isBroken, Option.isSome_eq_false_iff, Option.isNone_iff_eq_none] at h
    obtain ⟨heq, hle⟩ := scanString_append rest [']'] h
    simp only [heq]
    exact ⟨trivial, Nat.succ_le_succ hle⟩
  case h_8 | h_9 | h_10 => exact wordLexeme_append h [']']
  case h_11 =>
    split at h
    · next hdigit =>
      rw [if_pos hdigit, if_pos hdigit]
      cases hscan : scanNumber (c :: rest) with
      | error b => simp [hscan, Lexeme.isBroken] at h
      | ok p =>
        obtain ⟨heq, hle⟩ := scanNumber_append hscan
        simp only [← List.cons_append, heq]
        exact ⟨trivial, hle⟩
    · cases h

/-- **A text between brackets.** -/
theorem lexAfter_append {covered : Nat} {cs : List Char} (hcovered : covered ≤ cs.length)
    (h : ∀ l ∈ lexAfter covered cs, l.isBroken = false) :
    lexAfter covered (cs ++ [']']) = lexAfter covered cs ++ [.closeArray] := by
  induction cs generalizing covered with
  | nil =>
    obtain rfl : covered = 0 := Nat.le_zero.1 hcovered
    rfl
  | cons c rest ih =>
    rw [List.cons_append]
    cases covered with
    | succ covered => exact ih (Nat.le_of_succ_le_succ hcovered) h
    | zero =>
      unfold lexAfter at h ⊢
      split at h
      · next hspace =>
        rw [if_pos hspace, if_pos hspace]
        exact ih (Nat.zero_le _) h
      · next hspace =>
        rw [if_neg hspace, if_neg hspace]
        rcases hfirst : firstLexeme c rest with ⟨l, width⟩
        simp only [hfirst] at h ⊢
        have hl : l.isBroken = false := by
          split at h
          · exact h l (List.mem_singleton_self l)
          · exact h l List.mem_cons_self
        have hwhole : (firstLexeme c rest).1.isBroken = false := by
          rw [hfirst]
          exact hl
        obtain ⟨heq, hle⟩ := firstLexeme_append hwhole
        rw [hfirst] at heq hle
        simp only [heq, hl, Bool.false_eq_true, if_false, List.cons_append] at h ⊢
        have hwidth : width - 1 ≤ rest.length := Nat.sub_le_of_le_add hle
        rw [ih hwidth fun l' hl' => h l' (List.mem_cons_of_mem l hl')]

theorem lex_brackets {cs : List Char} (h : ∀ l ∈ lex cs, l.isBroken = false) :
    lex ('[' :: cs ++ [']']) = .openArray :: lex cs ++ [.closeArray] := by
  show .openArray :: lexAfter 0 (cs ++ [']']) = _
  rw [lexAfter_append (Nat.zero_le _) h]
  rfl

end Rulebook.Json
