import Mathlib.Data.List.Infix

/-!
# Texts by their bytes

A text may be taken by its UTF-8 form, and a part of it by the offsets in bytes at which the part
begins and ends. An offset has to be a boundary between characters: `slice?` gives nothing where it
is within one.

**Theorem (`utf8_prefix_iff`).** The bytes of a text begin with those of another if and only if the
text begins with the other. So where the bytes of a text have been found, they end at a boundary.

The bytes of a character tell where they end (`utf8EncodeChar_append_inj`), and so no character's
bytes begin with those of another.
-/

namespace Rulebook.Text

/-- The bytes of a text. -/
def utf8 (t : String) : List UInt8 := t.toUTF8.data.toList

/-- Is the offset in bytes a boundary between characters? -/
abbrev IsBoundary (t : String) (i : Nat) : Prop := String.Pos.Raw.IsValid t ⟨i⟩

/-- What stands between two offsets of a text, if they are boundaries. -/
def slice? (t : String) (i j : Nat) : Option String :=
  if i ≤ j ∧ IsBoundary t i ∧ IsBoundary t j then String.fromUTF8? (t.toUTF8.extract i j) else none

/-- The bytes that the first character of a text takes, or one where there is none. -/
def firstSize (t : String) : Nat :=
  match t.toList with
  | [] => 1
  | c :: _ => c.utf8Size

/-! ## Parts between boundaries -/

theorem isBoundary_append (before after : String) :
    IsBoundary (before ++ after) before.utf8ByteSize :=
  String.Pos.Raw.isValid_iff_exists_append.2 ⟨before, after, rfl, rfl⟩

/-- Between the offsets at which a part of a text begins and ends stands this part. -/
theorem slice?_append (before part after : String) :
    slice? (before ++ part ++ after) before.utf8ByteSize (before ++ part).utf8ByteSize =
      some part := by
  have hbegin : IsBoundary (before ++ part ++ after) before.utf8ByteSize := by
    rw [String.append_assoc]
    exact isBoundary_append before (part ++ after)
  have hle : before.utf8ByteSize ≤ (before ++ part).utf8ByteSize := by
    rw [String.utf8ByteSize_append]
    exact Nat.le_add_right _ _
  have hbytes : (before ++ part ++ after).toUTF8.extract before.utf8ByteSize
      (before ++ part).utf8ByteSize = part.toByteArray := by
    simp only [String.toUTF8_eq_toByteArray, ← String.size_toByteArray, String.toByteArray_append]
    rw [ByteArray.extract_append_size_left]
    exact ByteArray.extract_append_eq_right rfl ByteArray.size_append
  rw [slice?, if_pos ⟨hle, hbegin, isBoundary_append (before ++ part) after⟩, hbytes,
    String.fromUTF8?, dif_pos part.isValidUTF8]
  rfl

/-- What stands at the end of a text. -/
theorem slice?_append_right (before part : String) :
    slice? (before ++ part) before.utf8ByteSize (before ++ part).utf8ByteSize = some part := by
  have h := slice?_append before part ""
  rwa [String.append_empty] at h

/-- What stands at the beginning of a text. -/
theorem slice?_append_left (part after : String) :
    slice? (part ++ after) 0 part.utf8ByteSize = some part := by
  have h := slice?_append "" part after
  rwa [String.empty_append, String.utf8ByteSize_empty] at h

/-! ## Bytes and characters -/

theorem utf8_eq_flatMap (t : String) : utf8 t = t.toList.flatMap String.utf8EncodeChar := by
  rw [utf8, String.toUTF8_eq_toByteArray, ← String.utf8Encode_toList, List.utf8Encode,
    List.toList_data_toByteArray]

/-- The bytes of a character tell where they end. -/
theorem utf8EncodeChar_append_inj {c c' : Char} {rest rest' : List UInt8}
    (h : String.utf8EncodeChar c ++ rest = String.utf8EncodeChar c' ++ rest') :
    c = c' ∧ rest = rest' := by
  have hchar : c = c' := by
    have hdecode (c : Char) (rest : List UInt8) :
        (String.utf8EncodeChar c ++ rest).toByteArray.utf8DecodeChar? 0 = some c := by
      rw [List.toByteArray_append]
      exact ByteArray.utf8DecodeChar?_utf8EncodeChar_append
    have hsome := hdecode c rest
    rw [h, hdecode] at hsome
    exact (Option.some.inj hsome).symm
  rw [hchar, List.append_cancel_left_eq] at h
  exact ⟨hchar, h⟩

/-- **What begins with the bytes of a text begins with the text.** -/
theorem utf8_prefix_iff {tag t : String} : utf8 tag <+: utf8 t ↔ tag.toList <+: t.toList := by
  rw [utf8_eq_flatMap, utf8_eq_flatMap]
  generalize tag.toList = cs
  generalize t.toList = ds
  constructor
  · intro h
    induction cs generalizing ds with
    | nil => exact List.nil_prefix
    | cons c cs ih =>
      obtain ⟨rest, hrest⟩ := h
      cases ds with
      | nil => simp at hrest
      | cons d ds =>
        rw [List.flatMap_cons, List.flatMap_cons, List.append_assoc] at hrest
        obtain ⟨rfl, htail⟩ := utf8EncodeChar_append_inj hrest
        exact List.cons_prefix_cons.2 ⟨rfl, ih ds ⟨rest, htail⟩⟩
  · rintro ⟨rest, rfl⟩
    rw [List.flatMap_append]
    exact List.prefix_append _ _

end Rulebook.Text
