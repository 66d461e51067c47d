import Rulebook.Template.Segment
import Mathlib.Data.List.Infix

/-!
# The grammar of templates

`FirstAt tag x` says that in `x` with the tag after it, the tag is found right after `x`: it begins
nowhere within `x`, not even where it would end beyond it. Segments are canonical when each text
and each content ends where the tag after it is first found, no text is empty, and no two texts
stand side by side.

**Theorem (`canonical_or_leavesOpen`).** Every template is written by canonical segments, or leaves
a tag open: what canonical segments write is followed by an opening tag without a closing one.

This is a statement about tags and texts, whatever reads them. The proof cuts a template at the
first opening tag and the first closing tag after it, by induction on what is left.
-/

namespace Rulebook

/-! ## The first occurrence of a tag -/

/-- In `x` with the tag after it, the tag occurs at the end of `x` and nowhere before. -/
def FirstAt (tag x : List Char) : Prop :=
  ∀ i < x.length, ¬ tag <+: (x ++ tag).drop i

instance (tag x : List Char) : Decidable (FirstAt tag x) :=
  inferInstanceAs (Decidable (∀ i < x.length, ¬ tag <+: (x ++ tag).drop i))

theorem firstAt_nil (tag : List Char) : FirstAt tag [] := by
  intro i hi
  exact absurd hi (Nat.not_lt_zero i)

/-- What comes after the tag makes no difference. -/
theorem FirstAt.not_prefix_drop {tag x : List Char} (h : FirstAt tag x) (r : List Char) {i : Nat}
    (hi : i < x.length) : ¬ tag <+: (x ++ (tag ++ r)).drop i := by
  intro hp
  apply h i hi
  have hle : i ≤ (x ++ tag).length := by
    rw [List.length_append]
    omega
  rw [← List.append_assoc, List.drop_append_of_le_length hle] at hp
  refine List.prefix_of_prefix_length_le hp (List.prefix_append _ r) ?_
  rw [List.length_drop, List.length_append]
  omega

theorem not_prefix_drop_of_not_infix {tag x : List Char} (h : ¬ tag <:+: x) (i : Nat) :
    ¬ tag <+: x.drop i :=
  fun hp => h (hp.isInfix.trans (List.drop_suffix i x).isInfix)

/-- A tag that occurs in a text has a first occurrence. -/
theorem exists_firstAt {tag t : List Char} (h : tag <:+: t) :
    ∃ x r, t = x ++ (tag ++ r) ∧ FirstAt tag x := by
  induction t with
  | nil =>
    obtain rfl := List.infix_nil.1 h
    exact ⟨[], [], rfl, firstAt_nil []⟩
  | cons a t ih =>
    by_cases hp : tag <+: a :: t
    · obtain ⟨r, hr⟩ := hp
      exact ⟨[], r, hr.symm, firstAt_nil tag⟩
    · -- The tag does not begin here, and where it first begins further on is its first occurrence.
      obtain ⟨x, r, rfl, hx⟩ := ih ((List.infix_cons_iff.1 h).resolve_left hp)
      refine ⟨a :: x, r, rfl, fun i hi hpre => ?_⟩
      cases i with
      | zero =>
        apply hp
        rw [← List.append_assoc]
        exact hpre.trans (List.prefix_append (a :: (x ++ tag)) r)
      | succ i => exact hx i (Nat.lt_of_succ_lt_succ hi) hpre

theorem FirstAt.not_infix {tag x : List Char} (h : FirstAt tag x) (hne : tag ≠ []) :
    ¬ tag <:+: x := by
  rintro ⟨u, v, rfl⟩
  have hpos : 0 < tag.length := List.length_pos_of_ne_nil hne
  refine h u.length ?_ ?_
  · simp only [List.length_append]
    omega
  · simp only [List.append_assoc, List.drop_left]
    exact List.prefix_append tag (v ++ tag)

/-! No tag goes on over a character that it does not have. -/

theorem prefix_of_prefix_append_cons {tag x y : List Char} {c : Char} (hc : c ∉ tag)
    (h : tag <+: x ++ c :: y) : tag <+: x := by
  rcases List.prefix_or_prefix_of_prefix h (List.prefix_append x (c :: y)) with hx | ⟨w, rfl⟩
  · exact hx
  · rw [List.prefix_append_right_inj] at h
    cases w with
    | nil => rw [List.append_nil]
    | cons a w =>
      obtain rfl : a = c := (List.cons_prefix_cons.1 h).1
      exact absurd (List.mem_append_right x List.mem_cons_self) hc

theorem infix_append_cons_iff {tag x y : List Char} {c : Char} (hc : c ∉ tag) :
    tag <:+: x ++ c :: y ↔ tag <:+: x ∨ tag <:+: y := by
  constructor
  · intro h
    induction x with
    | nil =>
      rcases List.infix_cons_iff.1 h with hp | hy
      · exact .inl (prefix_of_prefix_append_cons (x := []) hc hp).isInfix
      · exact .inr hy
    | cons a x ih =>
      rcases List.infix_cons_iff.1 h with hp | hx
      · exact .inl (prefix_of_prefix_append_cons (x := a :: x) hc hp).isInfix
      · exact (ih hx).imp_left List.infix_cons
  · rintro (h | h)
    · exact h.trans (List.prefix_append x (c :: y)).isInfix
    · exact h.trans ((List.suffix_cons c y).trans (List.suffix_append x (c :: y))).isInfix

theorem firstAt_concat {tag x : List Char} {c : Char} (hc : c ∉ tag) (h : ¬ tag <:+: x) :
    FirstAt tag (x ++ [c]) := by
  intro i hi hp
  have hle : i ≤ x.length := by
    rw [List.length_append, List.length_singleton] at hi
    omega
  rw [List.append_assoc, List.drop_append_of_le_length hle] at hp
  exact not_prefix_drop_of_not_infix h i (prefix_of_prefix_append_cons hc hp)

/-! ## Writing segments -/

variable {d : Delimiters}

@[simp] theorem renderAll_nil (d : Delimiters) : renderAll d [] = "" := rfl

theorem renderAll_cons (d : Delimiters) (s : Segment) (S : List Segment) :
    renderAll d (s :: S) = s.render d ++ renderAll d S := by
  rw [renderAll, List.map_cons, String.join_cons, renderAll]

theorem toList_renderAll_text (d : Delimiters) (x : String) (S : List Segment) :
    (renderAll d (.text x :: S)).toList = x.toList ++ (renderAll d S).toList := by
  rw [renderAll_cons, String.toList_append, Segment.render]

theorem toList_renderAll_placeholder (d : Delimiters) (c : String) (p : Placeholder)
    (S : List Segment) :
    (renderAll d (.placeholder c p :: S)).toList =
      d.opening.toList ++ (c.toList ++ (d.closing.toList ++ (renderAll d S).toList)) := by
  simp [renderAll_cons, Segment.render, Delimiters.wrap]

/-! ## Canonical segments -/

/-- Segments that end where the tags after them are first found. A text at the end has no tag after
it; `last` says what is asked of it instead. -/
inductive Segmented (d : Delimiters) (last : String → Prop) : List Segment → Prop where
  | nil : Segmented d last []
  | lastText {x : String} (hne : x ≠ "") (hlast : last x) : Segmented d last [.text x]
  | text {x c : String} {p : Placeholder} {S : List Segment} (hne : x ≠ "")
      (hx : FirstAt d.opening.toList x.toList) (hS : Segmented d last (.placeholder c p :: S)) :
      Segmented d last (.text x :: .placeholder c p :: S)
  | placeholder {c : String} {S : List Segment} (hc : FirstAt d.closing.toList c.toList)
      (hS : Segmented d last S) : Segmented d last (.ofContent c :: S)

/-- Segments of a whole template: no opening tag stands in a text at the end. -/
def Canonical (d : Delimiters) : List Segment → Prop :=
  Segmented d fun x => ¬ d.opening.toList <:+: x.toList

/-- The template ends in an opening tag that is not closed, after segments that a placeholder might
follow. -/
def LeavesOpen (d : Delimiters) (t : String) : Prop :=
  ∃ P r, (P = [] ∨ ∃ content, Canonical d (P ++ [.ofContent content])) ∧
    t = renderAll d P ++ d.opening ++ r ∧ ¬ d.closing.toList <:+: r.toList

/-- What may stand before a placeholder: segments whose last text, if they end in one, is ended by
an opening tag. -/
theorem canonical_append_ofContent {P : List Segment} {c : String} :
    Canonical d (P ++ [.ofContent c]) ↔
      Segmented d (fun x => FirstAt d.opening.toList x.toList) P ∧
        FirstAt d.closing.toList c.toList := by
  constructor
  · intro h
    induction P with
    | nil =>
      cases h with
      | placeholder hc _ => exact ⟨.nil, hc⟩
    | cons s P ih =>
      cases P with
      | nil =>
        cases h with
        | text hne hx hS =>
          cases hS with
          | placeholder hc _ => exact ⟨.lastText hne hx, hc⟩
        | placeholder hc hS => exact ⟨.placeholder hc .nil, (ih hS).2⟩
      | cons s' P =>
        cases h with
        | text hne hx hS => exact ⟨.text hne hx (ih hS).1, (ih hS).2⟩
        | placeholder hc hS => exact ⟨.placeholder hc (ih hS).1, (ih hS).2⟩
  · rintro ⟨hP, hc⟩
    induction hP with
    | nil => exact .placeholder hc .nil
    | lastText hne hx => exact .text hne hx (.placeholder hc .nil)
    | text hne hx _ ih => exact .text hne hx ih
    | placeholder hc' _ ih => exact .placeholder hc' ih

theorem leavesOpen_iff {t : String} :
    LeavesOpen d t ↔ ∃ P r, Segmented d (fun x => FirstAt d.opening.toList x.toList) P ∧
      t.toList = (renderAll d P).toList ++ (d.opening.toList ++ r) ∧ ¬ d.closing.toList <:+: r := by
  constructor
  · rintro ⟨P, r, hP, rfl, hr⟩
    refine ⟨P, r.toList, ?_, by simp, hr⟩
    rcases hP with rfl | ⟨content, hP⟩
    · exact .nil
    · exact (canonical_append_ofContent.1 hP).1
  · rintro ⟨P, r, hP, ht, hr⟩
    refine ⟨P, String.ofList r, .inr ⟨"", canonical_append_ofContent.2 ⟨hP, firstAt_nil _⟩⟩, ?_, ?_⟩
    · rw [← String.toList_inj, ht]
      simp
    · rwa [String.toList_ofList]

/-! ## Every template is of one of the two forms -/

/-- The text before a tag, if there is one. -/
def Segment.before (x : List Char) : List Segment :=
  if x = [] then [] else [.text (String.ofList x)]

theorem toList_renderAll_before (x : List Char) (S : List Segment) :
    (renderAll d (Segment.before x ++ S)).toList = x ++ (renderAll d S).toList := by
  by_cases hx : x = []
  · rw [Segment.before, if_pos hx, hx]
    rfl
  · rw [Segment.before, if_neg hx, List.singleton_append, toList_renderAll_text,
      String.toList_ofList]

theorem toList_renderAll_before_self (x : List Char) :
    (renderAll d (Segment.before x)).toList = x := by
  have h := toList_renderAll_before (d := d) x []
  rwa [List.append_nil, renderAll_nil, String.toList_empty, List.append_nil] at h

namespace Segmented

variable {last : String → Prop} {x : List Char}

theorem before (hlast : last (String.ofList x)) : Segmented d last (Segment.before x) := by
  by_cases hx : x = []
  · rw [Segment.before, if_pos hx]
    exact .nil
  · rw [Segment.before, if_neg hx]
    exact .lastText (by simpa using hx) hlast

theorem before_placeholder {c : String} {p : Placeholder} {S : List Segment}
    (hx : FirstAt d.opening.toList x) (hS : Segmented d last (.placeholder c p :: S)) :
    Segmented d last (Segment.before x ++ .placeholder c p :: S) := by
  by_cases hne : x = []
  · rw [Segment.before, if_pos hne]
    exact hS
  · rw [Segment.before, if_neg hne]
    exact .text (by simpa using hne) (by rwa [String.toList_ofList]) hS

end Segmented

/-- The two forms, by induction on what is left after the first placeholder. -/
theorem exists_segmented (d : Delimiters) (t : List Char) :
    (∃ S, Canonical d S ∧ (renderAll d S).toList = t) ∨
      ∃ P r, Segmented d (fun x => FirstAt d.opening.toList x.toList) P ∧
        t = (renderAll d P).toList ++ (d.opening.toList ++ r) ∧ ¬ d.closing.toList <:+: r := by
  induction hn : t.length using Nat.strong_induction_on generalizing t with
  | _ n ih =>
    by_cases ho : d.opening.toList <:+: t
    · obtain ⟨x, r, rfl, hx⟩ := exists_firstAt ho
      by_cases hc : d.closing.toList <:+: r
      · obtain ⟨c, r, rfl, hc⟩ := exists_firstAt hc
        have hcontent : FirstAt d.closing.toList (String.ofList c).toList := by
          rwa [String.toList_ofList]
        have hpos : 0 < d.opening.toList.length :=
          List.length_pos_of_ne_nil (by simpa using d.opening_ne)
        have hlt : r.length < n := by
          rw [← hn]
          simp only [List.length_append]
          omega
        -- Whatever follows the placeholder, the text before it and the placeholder come first.
        rcases ih r.length hlt r rfl with ⟨S, hS, rfl⟩ | ⟨P, r, hP, rfl, hr⟩
        · refine .inl ⟨Segment.before x ++ .ofContent (String.ofList c) :: S,
            .before_placeholder hx (.placeholder hcontent hS), ?_⟩
          rw [toList_renderAll_before, Segment.ofContent, toList_renderAll_placeholder,
            String.toList_ofList]
        · refine .inr ⟨Segment.before x ++ .ofContent (String.ofList c) :: P, r,
            .before_placeholder hx (.placeholder hcontent hP), ?_, hr⟩
          rw [toList_renderAll_before, Segment.ofContent, toList_renderAll_placeholder,
            String.toList_ofList]
          simp only [List.append_assoc]
      · refine .inr ⟨Segment.before x, r, .before (by rwa [String.toList_ofList]), ?_, hc⟩
        rw [toList_renderAll_before_self]
    · exact .inl ⟨Segment.before t, .before (by rwa [String.toList_ofList]),
        toList_renderAll_before_self t⟩

/-- **Every template is written by canonical segments, or leaves a tag open.** -/
theorem canonical_or_leavesOpen (d : Delimiters) (t : String) :
    (∃ S, Canonical d S ∧ renderAll d S = t) ∨ LeavesOpen d t := by
  rcases exists_segmented d t.toList with ⟨S, hS, ht⟩ | h
  · exact .inl ⟨S, hS, String.toList_inj.1 ht⟩
  · exact .inr (leavesOpen_iff.2 h)

end Rulebook
