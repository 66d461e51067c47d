import Rulebook.Settings.Layer
import Rulebook.Proofs.Conversion.SameNumber
import Rulebook.Proofs.Text.NumeralCase

/-!
# Texts from the environment

A text in the environment is read as a flag, as a whole number of 64 bits or as a number if it
writes one, and turned back into a text where a text is wanted. `Setting.environmentText` is what
becomes of it.

**Theorem (`environmentText_eq_self_iff`).** A text comes back as it is if and only if it is `true`
or `false` in small letters, or a whole number of 64 bits as such numbers are printed, or none of
these and, if it reads as a number at all, this number as it is printed. So `TRUE`, `007`, `+1` and
`1e3` do not.
-/

namespace Rulebook

open Conversion (readInt64?)

theorem toList_toString_int (i : Int) : (toString i).toList = wholeText i := by
  cases i with
  | ofNat n =>
    have hn : ¬ (Int.ofNat n < 0) := Int.not_lt.2 (Int.natCast_nonneg n)
    rw [wholeText, if_neg hn]
    exact Nat.toList_repr
  | negSucc n =>
    have hn : Int.negSucc n < 0 := Int.negSucc_lt_zero n
    rw [wholeText, if_pos hn]
    have htext : toString (Int.negSucc n) = "-" ++ (n + 1).repr := rfl
    rw [htext, String.toList_append, Nat.toList_repr]
    rfl

namespace Setting

/-- Is the text a word for a flag, in any case? -/
def IsFlagWord (cs : List Char) : Prop :=
  Text.lowercase cs = "true".toList ∨ Text.lowercase cs = "false".toList

instance (cs : List Char) : Decidable (IsFlagWord cs) := inferInstanceAs (Decidable (_ ∨ _))

/-- The text that a text in the environment gives where a text is wanted. -/
def environmentText (text : String) : String :=
  let cs := text.toList
  if IsFlagWord cs then String.ofList (Text.lowercase cs)
  else match readInt64? cs with
    | some i => toString i
    | none => match Numeral.read? cs with
      | some n => String.ofList n.plainText
      | none => text

theorem asText?_ofEnvironment (text : String) :
    (ofEnvironment text).asText? = some (environmentText text) := by
  unfold ofEnvironment environmentText IsFlagWord
  by_cases htrue : Text.lowercase text.toList = "true".toList
  · simp only [htrue, if_true, true_or]
    rfl
  · by_cases hfalse : Text.lowercase text.toList = "false".toList
    · simp only [hfalse, if_true, or_true]
      rfl
    · simp only [htrue, hfalse, if_false, or_false, readInt64?]
      cases (readInteger? text.toList).filter fun i => decide (-(2 ^ 63) ≤ i ∧ i < 2 ^ 63) with
      | some i => rfl
      | none => cases Numeral.read? text.toList <;> rfl

/-! ## Texts that come back as they are -/

/-- Does the text come back as it is? -/
def IsPlain (text : String) : Prop :=
  text = "true" ∨ text = "false" ∨ (∃ i : Int, -(2 ^ 63) ≤ i ∧ i < 2 ^ 63 ∧ text = toString i) ∨
    (¬ IsFlagWord text.toList ∧ readInt64? text.toList = none ∧
      ∀ n, Numeral.read? text.toList = some n → text = String.ofList n.plainText)

/-- What writes a whole number is no word. -/
theorem not_isFlagWord_of_readInteger? {cs : List Char} {i : Int} (h : readInteger? cs = some i) :
    ¬ IsFlagWord cs := by
  have hnumeral := isNumeral_of_readInteger? h
  have hlower : Text.lowercase cs = cs.map Text.small :=
    Text.lowerAfter_of_isPlain [] fun c hc => by simp [Text.isPlain, hnumeral c hc]
  have hletter {d : Char} (he : d ≠ 'e') (hE : d ≠ 'E') (hd : Text.isNumeral d = false) :
      d ∉ Text.lowercase cs := by
    rw [hlower, List.mem_map]
    rintro ⟨c, hc, hsmall⟩
    rw [Text.small_eq_iff he hE] at hsmall
    rw [← hsmall, hnumeral c hc] at hd
    cases hd
  rintro (hword | hword)
  · exact hletter (d := 't') (by decide) (by decide) (by decide) (by rw [hword]; decide)
  · exact hletter (d := 'f') (by decide) (by decide) (by decide) (by rw [hword]; decide)

theorem environmentText_of_isFlagWord {text : String} (h : IsFlagWord text.toList) :
    environmentText text = String.ofList (Text.lowercase text.toList) := by
  rw [environmentText, if_pos h]

theorem environmentText_of_readInt64? {text : String} {i : Int} (hword : ¬ IsFlagWord text.toList)
    (h : readInt64? text.toList = some i) : environmentText text = toString i := by
  rw [environmentText, if_neg hword, h]

theorem environmentText_of_not_readInt64? {text : String} (hword : ¬ IsFlagWord text.toList)
    (h : readInt64? text.toList = none) :
    environmentText text =
      (Numeral.read? text.toList).elim text fun n => String.ofList n.plainText := by
  rw [environmentText, if_neg hword, h]
  cases Numeral.read? text.toList <;> rfl

/-- **The texts that come back as they are.** -/
theorem environmentText_eq_self_iff (text : String) :
    environmentText text = text ↔ IsPlain text := by
  constructor
  · intro h
    by_cases hword : IsFlagWord text.toList
    · rw [environmentText_of_isFlagWord hword] at h
      rcases hword with hword | hword
      · exact .inl (by rw [← h, hword, String.ofList_toList])
      · exact .inr (.inl (by rw [← h, hword, String.ofList_toList]))
    · cases hwhole : readInt64? text.toList with
      | some i =>
        rw [environmentText_of_readInt64? hword hwhole] at h
        obtain ⟨hlow, hhigh⟩ := of_decide_eq_true (Option.filter_eq_some_iff.1 hwhole).2
        exact .inr (.inr (.inl ⟨i, hlow, hhigh, h.symm⟩))
      | none =>
        rw [environmentText_of_not_readInt64? hword hwhole] at h
        refine .inr (.inr (.inr ⟨hword, hwhole, fun n hn => ?_⟩))
        rw [hn] at h
        exact h.symm
  · rintro (rfl | rfl | ⟨i, hlow, hhigh, rfl⟩ | ⟨hword, hwhole, hreal⟩)
    · decide +kernel
    · decide +kernel
    · have hread : readInteger? (toString i).toList = some i := by
        rw [toList_toString_int, readInteger?_wholeText]
      have hwhole : readInt64? (toString i).toList = some i := by
        rw [readInt64?, hread, Option.filter_some, if_pos (decide_eq_true ⟨hlow, hhigh⟩)]
      exact environmentText_of_readInt64? (not_isFlagWord_of_readInteger? hread) hwhole
    · rw [environmentText_of_not_readInt64? hword hwhole]
      cases hn : Numeral.read? text.toList with
      | none => rfl
      | some n => exact (hreal n hn).symm

example : environmentText "1e3" = "1000" := by decide +kernel

end Setting

/-! ## No text is lost -/

namespace Decimal

theorem aroundPoint_fst_ne_nil (digits : List Char) (first : Int) :
    (aroundPoint digits first).1 ≠ [] := by
  unfold aroundPoint
  split
  · exact List.cons_ne_nil _ _
  · intro hnil
    have hlength := congrArg List.length hnil
    simp only [List.length_append, List.length_replicate, List.length_nil] at hlength
    omega

theorem plainText_ne_nil (d : Decimal) : d.plainText ≠ [] := by
  have hwhole := aroundPoint_fst_ne_nil d.significant.1 d.significant.2
  simp only [plainText]
  split
  · exact List.cons_ne_nil _ _
  · split
    · exact hwhole
    · exact List.append_ne_nil_of_left_ne_nil hwhole _

end Decimal

theorem Numeral.plainText_ne_nil (n : Numeral) : n.plainText ≠ [] := by
  cases n with
  | finite x =>
    rw [plainText]
    split
    · split <;> decide
    · exact x.shortest.plainText_ne_nil
  | infinite negative => cases negative <;> decide
  | nan => decide

namespace Setting

theorem environmentText_ne_empty {text : String} (h : text ≠ "") : environmentText text ≠ "" := by
  by_cases hword : IsFlagWord text.toList
  · rw [environmentText_of_isFlagWord hword]
    rcases hword with hword | hword <;> rw [hword] <;> decide
  · cases hwhole : readInt64? text.toList with
    | some i =>
      rw [environmentText_of_readInt64? hword hwhole]
      intro hempty
      have htext := toList_toString_int i
      rw [hempty] at htext
      exact wholeText_ne_nil i htext.symm
    | none =>
      rw [environmentText_of_not_readInt64? hword hwhole]
      cases Numeral.read? text.toList with
      | none => exact h
      | some n => simpa using n.plainText_ne_nil

end Setting

end Rulebook
