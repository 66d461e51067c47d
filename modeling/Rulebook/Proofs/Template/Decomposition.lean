import Rulebook.Proofs.Template.Scanning

/-!
# Splitting a template

**Theorem (`split_iff_canonical`).** Splitting a template gives the canonical segments that write
it, and gives none when the template leaves a tag open.

A scan of what canonical segments write finds just these segments (`segments?_finish_renderAll`, by
induction on them), so what they write determines them (`Canonical.unique`). Since every template is
written by canonical segments or leaves a tag open (`canonical_or_leavesOpen`), nothing more has to
be known of the scan: the segments it finds are canonical because some canonical segments write the
template, and these are what it finds.
-/

namespace Rulebook

variable {d : Delimiters}

/-- **A scan finds the segments that were written.** What comes after a text at the end has to be
such that the scan finds that text as well. -/
theorem Scan.segments?_finish_renderAll {last : String → Prop} {S : List Segment}
    (hS : Segmented d last S) {r : List Char}
    (hlast : ∀ found x, x ≠ "" → last x →
      (finish d ⟨.start, found, [], x.toList ++ r⟩).segments? =
        (finish d ⟨.start, .text x :: found, [], r⟩).segments?)
    (found : List Segment) :
    (finish d ⟨.start, found, [], (renderAll d S).toList ++ r⟩).segments? =
      (finish d ⟨.start, S.reverse ++ found, [], r⟩).segments? := by
  induction hS generalizing found with
  | nil => rfl
  | @lastText x hne hx =>
    rw [toList_renderAll_text, renderAll_nil, String.toList_empty, List.append_nil]
    exact hlast found x hne hx
  | @text x c p S hne hx _ ih =>
    have hscan := finish_text found (by simpa using hne) hx
      (r := c.toList ++ (d.closing.toList ++ ((renderAll d S).toList ++ r)))
    rw [String.ofList_toList] at hscan
    have hrest := ih (.text x :: found)
    rw [toList_renderAll_placeholder] at hrest
    rw [toList_renderAll_text, toList_renderAll_placeholder]
    simp only [List.append_assoc] at hrest ⊢
    rw [hscan, hrest]
    simp
  | @placeholder c S hc _ ih =>
    have hscan := finish_placeholder found hc (r := (renderAll d S).toList ++ r)
    rw [String.ofList_toList] at hscan
    rw [Segment.ofContent, toList_renderAll_placeholder]
    simp only [List.append_assoc]
    rw [hscan, ih]
    simp [Segment.ofContent]

namespace Template

/-- Splitting undoes writing canonical segments. -/
theorem segments?_renderAll {S : List Segment} (hS : Canonical d S) :
    segments? d (renderAll d S) = some S := by
  have hlast (found : List Segment) (x : String) (hne : x ≠ "")
      (hx : ¬ d.opening.toList <:+: x.toList) :
      (Scan.finish d ⟨.start, found, [], x.toList ++ []⟩).segments? =
        (Scan.finish d ⟨.start, .text x :: found, [], []⟩).segments? := by
    rw [List.append_nil, Scan.segments?_finish_text (by simpa using hne) hx, String.ofList_toList,
      Scan.segments?_finish_nil, List.reverse_cons]
  have hscan := Scan.segments?_finish_renderAll hS hlast []
  rw [List.append_nil, List.append_nil, Scan.segments?_finish_nil, List.reverse_reverse] at hscan
  rw [segments?_eq_finish]
  exact hscan

/-- A template that leaves a tag open is not split. -/
theorem segments?_of_leavesOpen {t : String} (h : LeavesOpen d t) : segments? d t = none := by
  obtain ⟨P, r, hP, ht, hr⟩ := leavesOpen_iff.1 h
  rw [segments?_eq_finish, ht, Scan.init,
    Scan.segments?_finish_renderAll hP fun found x hne hx => ?_]
  · exact Scan.segments?_finish_opening hr
  · have hscan := Scan.finish_text (r := r) found (by simpa using hne) hx
    rw [hscan, String.ofList_toList]

theorem value_split (d : Delimiters) (t : String) : (split d t).value = segments? d t := by
  unfold split
  cases segments? d t <;> rfl

end Template

/-! ## The two forms of templates -/

namespace Canonical

variable {S S' : List Segment}

/-- Canonical segments are determined by what they write. -/
theorem unique (hS : Canonical d S) (hS' : Canonical d S') (h : renderAll d S = renderAll d S') :
    S = S' := by
  have hsplit := Template.segments?_renderAll hS
  rw [h, Template.segments?_renderAll hS'] at hsplit
  exact (Option.some.inj hsplit).symm

theorem not_leavesOpen (hS : Canonical d S) : ¬ LeavesOpen d (renderAll d S) := by
  intro hopen
  have hsplit := Template.segments?_of_leavesOpen hopen
  rw [Template.segments?_renderAll hS] at hsplit
  exact nomatch hsplit

end Canonical

/-- **A template is split into the canonical segments that write it.** They are the only ones. A
template that is not empty is split into nothing exactly when it leaves a tag open. -/
theorem split_iff_canonical (d : Delimiters) (t : String) :
    (∀ S, S ≠ [] → ((Template.split d t).value.getD [] = S ↔ Canonical d S ∧ renderAll d S = t)) ∧
      (t ≠ "" → ((Template.split d t).value.getD [] = [] ↔ LeavesOpen d t)) := by
  rw [Template.value_split]
  rcases canonical_or_leavesOpen d t with ⟨S₀, hS₀, rfl⟩ | hopen
  · rw [Template.segments?_renderAll hS₀, Option.getD_some]
    refine ⟨fun S _ => ⟨?_, ?_⟩, fun ht => ⟨?_, ?_⟩⟩
    · rintro rfl
      exact ⟨hS₀, rfl⟩
    · rintro ⟨hS, hr⟩
      exact hS₀.unique hS hr.symm
    · rintro rfl
      exact absurd (renderAll_nil d) ht
    · intro hopen
      exact absurd hopen hS₀.not_leavesOpen
  · rw [Template.segments?_of_leavesOpen hopen, Option.getD_none]
    refine ⟨fun S hne => ⟨?_, ?_⟩, fun _ => ⟨fun _ => hopen, fun _ => rfl⟩⟩
    · rintro rfl
      exact absurd rfl hne
    · rintro ⟨hS, rfl⟩
      exact absurd hopen hS.not_leavesOpen

/-- Tags of which the closing one begins the opening one. -/
def dashes : Delimiters := ⟨"--", "-", by decide, by decide⟩

theorem split_iff_canonical_dashes :
    (Canonical dashes [.text "x", .ofContent "", .text "-y"] ∧
        renderAll dashes [.text "x", .ofContent "", .text "-y"] = "x----y") ∧
      LeavesOpen dashes "x--y" := by
  constructor
  · exact ((split_iff_canonical dashes "x----y").1 [.text "x", .ofContent "", .text "-y"]
      (by decide)).1 (by cbv)
  · exact ((split_iff_canonical dashes "x--y").2 (by decide)).1 (by cbv)

end Rulebook
