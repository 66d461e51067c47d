import Rulebook.Proofs.Template.Filling

/-!
# Templates one after the other

**Theorem (`split_and_fill_append`).** After a template that is empty or ends in a placeholder, any
template is split and filled in as it is on its own. If it leaves a tag open, so do both together,
and then nothing of the first is filled in either.

A placeholder at the end is what keeps the seam tight. Its closing tag has been taken, so the scan
is at a start there and no tag reaches over the seam, even where the end of one template and the
start of the other make up a tag. In terms of segments: what follows a placeholder is canonical or
not whatever stands before it (`Segmented.append`), and canonical segments are what a scan finds.
-/

namespace Rulebook

variable {d : Delimiters} {ctx : Context} {S T : List Segment}

/-! ## Segments one after the other -/

theorem renderAll_append (d : Delimiters) (S T : List Segment) :
    renderAll d (S ++ T) = renderAll d S ++ renderAll d T := by
  induction S with
  | nil => rw [List.nil_append, renderAll_nil, String.empty_append]
  | cons s S ih => rw [List.cons_append, renderAll_cons, renderAll_cons, ih, String.append_assoc]

theorem fillSegments_append (S T : List Segment) :
    fillSegments ctx (S ++ T) = do
      return (← fillSegments ctx S) ++ (← fillSegments ctx T) := by
  induction S with
  | nil => simp [fillSegments, -bind_pure_comp]
  | cons s S ih => simp [fillSegments, ih, String.append_assoc, -bind_pure_comp]

/-- The last segment is a text, which a text after it would go on with. -/
def EndsInText (S : List Segment) : Prop := ∃ x, S.getLast? = some (.text x)

theorem endsInText_cons_cons {s s' : Segment} :
    EndsInText (s :: s' :: S) ↔ EndsInText (s' :: S) := by
  simp only [EndsInText, List.getLast?_cons_cons]

/-- **Segments may follow a placeholder whatever stands before it.** -/
theorem Segmented.append {last last' : String → Prop} (hS : Segmented d last S)
    (hend : ¬ EndsInText S) (hT : Segmented d last' T) : Segmented d last' (S ++ T) := by
  induction hS with
  | nil => exact hT
  | @lastText x => exact absurd ⟨x, rfl⟩ hend
  | text hne hx _ ih =>
    rw [endsInText_cons_cons] at hend
    exact .text hne hx (ih hend)
  | @placeholder c S hc _ ih =>
    refine .placeholder hc (ih ?_)
    cases S with
    | nil => rintro ⟨x, hx⟩; cases hx
    | cons s S => rwa [endsInText_cons_cons] at hend

/-- A tag that is open after some segments is open after more of them. -/
theorem LeavesOpen.append {t : String} (h : LeavesOpen d t) (hS : Canonical d S)
    (hend : ¬ EndsInText S) : LeavesOpen d (renderAll d S ++ t) := by
  obtain ⟨P, r, hP, ht, hr⟩ := leavesOpen_iff.1 h
  refine leavesOpen_iff.2 ⟨S ++ P, r, hS.append hend hP, ?_, hr⟩
  rw [renderAll_append, String.toList_append, String.toList_append, ht, List.append_assoc]

/-! ## Templates one after the other -/

namespace Template

/-- What a template is split into is canonical and writes it. -/
theorem canonical_of_segments? {t : String} (h : segments? d t = some S) :
    Canonical d S ∧ renderAll d S = t := by
  rcases canonical_or_leavesOpen d t with ⟨S', hS', rfl⟩ | hopen
  · obtain rfl : S' = S := Option.some.inj ((segments?_renderAll hS').symm.trans h)
    exact ⟨hS', rfl⟩
  · cases (segments?_of_leavesOpen hopen).symm.trans h

theorem leavesOpen_of_segments? {t : String} (h : segments? d t = none) : LeavesOpen d t := by
  refine (canonical_or_leavesOpen d t).resolve_left ?_
  rintro ⟨S, hS, rfl⟩
  cases (segments?_renderAll hS).symm.trans h

theorem segments?_append {t₁ : String} (h₁ : segments? d t₁ = some S) (hend : ¬ EndsInText S)
    (t₂ : String) : segments? d (t₁ ++ t₂) = (segments? d t₂).map (S ++ ·) := by
  obtain ⟨hS, rfl⟩ := canonical_of_segments? h₁
  cases h₂ : segments? d t₂ with
  | none => exact segments?_of_leavesOpen ((leavesOpen_of_segments? h₂).append hS hend)
  | some T =>
    obtain ⟨hT, rfl⟩ := canonical_of_segments? h₂
    rw [← renderAll_append]
    exact segments?_renderAll (hS.append hend hT)

theorem segments?_eq_some_nil_iff {t : String} : segments? d t = some [] ↔ t = "" := by
  constructor
  · intro h
    exact (canonical_of_segments? h).2.symm
  · rintro rfl
    rfl

theorem fill_append_of_split (ctx : Context) {t₁ t₂ : String} {S₁ S₂ : List Segment}
    (h₁ : segments? d t₁ = some S₁) (h₂ : segments? d t₂ = some S₂)
    (h : segments? d (t₁ ++ t₂) = some (S₁ ++ S₂)) :
    fill d ctx (t₁ ++ t₂) = do return (← fill d ctx t₁) ++ (← fill d ctx t₂) := by
  rw [fill_of_segments?_eq_some h, fill_of_segments?_eq_some h₁, fill_of_segments?_eq_some h₂,
    fillSegments_append]

end Template

/-- **Templates that end in a placeholder may be followed by any other.** If the second one can be
split, the segments of both together are those of the first and then those of the second, and what
is filled in, with all that this brings about, is one after the other. Otherwise both together
cannot be split, and they stay as they are, nothing being looked up or converted. -/
theorem split_and_fill_append (d : Delimiters) (ctx : Context) (t₁ t₂ : String)
    (h₁ : t₁ = "" ∨ ∃ S content p,
      (Template.split d t₁).value = some (S ++ [.placeholder content p])) :
    (t₂ = "" ∨ (Template.split d t₂).value.getD [] ≠ [] →
      (∃ S₁ S₂, (Template.split d t₁).value = some S₁ ∧ (Template.split d t₂).value = some S₂ ∧
          (Template.split d (t₁ ++ t₂)).value = some (S₁ ++ S₂)) ∧
        (Template.fill d ctx (t₁ ++ t₂)).value =
          (Template.fill d ctx t₁).value ++ (Template.fill d ctx t₂).value ∧
        (Template.fill d ctx (t₁ ++ t₂)).trace =
          (Template.fill d ctx t₁).trace ++ (Template.fill d ctx t₂).trace) ∧
      (¬ (t₂ = "" ∨ (Template.split d t₂).value.getD [] ≠ []) →
        (Template.split d (t₁ ++ t₂)).value = none ∧
          (Template.fill d ctx (t₁ ++ t₂)).value = t₁ ++ t₂ ∧
          ∀ e ∈ (Template.fill d ctx (t₁ ++ t₂)).trace, ∃ line, e = .log line) := by
  simp only [Template.value_split] at h₁ ⊢
  obtain ⟨S₁, hS₁, hend⟩ : ∃ S₁, Template.segments? d t₁ = some S₁ ∧ ¬ EndsInText S₁ := by
    rcases h₁ with rfl | ⟨S, content, p, hS⟩
    · exact ⟨[], rfl, by simp [EndsInText]⟩
    · exact ⟨_, hS, by simp [EndsInText]⟩
  have happend := Template.segments?_append hS₁ hend t₂
  cases h₂ : Template.segments? d t₂ with
  | some S₂ =>
    rw [h₂, Option.map_some] at happend
    have hfill := Template.fill_append_of_split ctx hS₁ h₂ happend
    refine ⟨fun _ => ⟨⟨S₁, S₂, hS₁, rfl, happend⟩, ?_, ?_⟩, fun hno => absurd ?_ hno⟩
    · rw [hfill]
      rfl
    · rw [hfill]
      simp
    · -- Only an empty template is split into no segments.
      by_cases hnil : S₂ = []
      · exact .inl (Template.segments?_eq_some_nil_iff.1 (hnil ▸ h₂))
      · exact .inr hnil
  | none =>
    rw [h₂, Option.map_none] at happend
    refine ⟨fun hsome => ?_, fun _ => ⟨happend, Template.fill_of_segments?_eq_none happend⟩⟩
    rcases hsome with rfl | hsome
    · cases h₂
    · exact absurd rfl hsome

/-- The tags are `--` and `-`. In the first pair the end of the one template and the start of the
other make up an opening tag, and in the second such a tag follows which is not closed. -/
theorem split_and_fill_append_dashes :
    let ctx : Context :=
      ⟨fun _ => some (.str "-"), ⟨fun _ _ _ => pure .success, fun _ _ => pure .success⟩,
        fun _ v => pure v⟩
    ((Template.split dashes "x--a-").value = some [.text "x", .ofContent "a"] ∧
        (Template.split dashes ("x--a-" ++ "-b")).value =
          some [.text "x", .ofContent "a", .text "-b"] ∧
        (Template.fill dashes ctx ("x--a-" ++ "-b")).value = "x-" ++ "-b") ∧
      (Template.split dashes ("x--a-" ++ "--b")).value = none ∧
        (Template.fill dashes ctx ("x--a-" ++ "--b")).value = "x--a---b" := by
  intro ctx
  have hfirst : (Template.split dashes "x--a-").value = some [.text "x", .ofContent "a"] := by cbv
  have hsecond : (Template.split dashes "-b").value = some [.text "-b"] := by cbv
  have hopen : (Template.split dashes "--b").value = none := by cbv
  have happend (t₂ : String) := split_and_fill_append dashes ctx "x--a-" t₂
    (.inr ⟨[.text "x"], "a", .parse "a", hfirst⟩)
  obtain ⟨⟨S₁, S₂, hS₁, hS₂, hsplit⟩, hfill, -⟩ := (happend "-b").1 (.inr (by simp [hsecond]))
  obtain rfl := Option.some.inj (hfirst.symm.trans hS₁)
  obtain rfl := Option.some.inj (hsecond.symm.trans hS₂)
  obtain ⟨hnone, hkept, -⟩ := (happend "--b").2 (by simp [hopen])
  exact ⟨⟨hfirst, hsplit, hfill.trans (by cbv)⟩, hnone, hkept⟩

end Rulebook
