import Rulebook.Proofs.Template.Concatenation
import Rulebook.Proofs.Text.Utf8

/-!
# Scanning by offsets in bytes

A scan may keep the template as it is, and two offsets in bytes: where the segment under way begins,
and how far the template has been looked at. Then it takes the tags and the segments out of the
template by their bytes, and each time the offsets have to be boundaries between characters: no
character can be cut. `ByteScan.step?` has no result where one would be.

**Theorem (`byteScan_keeps_boundaries`).** The scan by offsets never comes to such a point. Its
offsets stay boundaries of the template, what has been found and what is under way makes up just
what has been looked at, and each step looks further. It does in each step what the scan of the
characters does, and it has looked at all of the template after at most as many steps as this has
characters.

What carries the proof is an invariant of the scan of the characters (`Scan.Splits`): the segments
found, the open tag, the span and the rest make up the template. So the offsets are those at which
one part of the template ends and another begins, which are boundaries. That a tag which is found by
its bytes ends at a boundary is `Text.utf8_prefix_iff`.
-/

namespace Rulebook

open Text (IsBoundary firstSize slice? utf8)

/-! ## The scan -/

/-- A scan under way: the segments found, the offset at which the segment under way begins, and the
offset of what is not yet looked at. -/
structure ByteScan where
  phase : Phase
  found : List Segment
  spanStart : Nat
  index : Nat

namespace ByteScan

def init : ByteScan := ⟨.start, [], 0, 0⟩

/-- One step of the scan, with no result if a character would have to be cut. -/
def step? (d : Delimiters) (t : String) (s : ByteScan) : Option ByteScan := do
  let rest ← slice? t s.index t.utf8ByteSize
  match s.phase with
  | .tag =>
    if (utf8 d.closing).isPrefixOf (utf8 rest) then
      let content ← slice? t s.spanStart s.index
      let next := s.index + d.closing.utf8ByteSize
      return ⟨.start, s.found ++ [.ofContent content], next, next⟩
    else return { s with index := s.index + firstSize rest }
  | .start | .text =>
    if (utf8 d.opening).isPrefixOf (utf8 rest) then
      let texts ← if s.spanStart < s.index then
          (slice? t s.spanStart s.index).map fun x => [.text x]
        else some []
      let next := s.index + d.opening.utf8ByteSize
      return ⟨.tag, s.found ++ texts, next, next⟩
    else return { s with phase := .text, index := s.index + firstSize rest }

/-- A number of steps, or fewer if all of the template is looked at before. -/
def run? (d : Delimiters) (t : String) : Nat → ByteScan → Option ByteScan
  | 0, s => some s
  | n + 1, s => if s.index < t.utf8ByteSize then s.step? d t >>= run? d t n else some s

/-- The segments at the end of a template, if no placeholder is open there, with no result if a
character would have to be cut. -/
def segments? (t : String) (s : ByteScan) : Option (Option (List Segment)) :=
  match s.phase with
  | .tag => some none
  | .text => (slice? t s.spanStart t.utf8ByteSize).map fun x => some (s.found ++ [.text x])
  | .start => some (some s.found)

/-- The template up to the segment under way. -/
def written (d : Delimiters) (s : ByteScan) : String :=
  renderAll d s.found ++ if s.phase = .tag then d.opening else ""

/-- The offsets are boundaries of the template, the first one not after the second. Outside of a
placeholder a text is under way if and only if they differ. The segments found, the tag that is open
and the segment under way make up the template as far as it has been looked at. -/
structure Sound (d : Delimiters) (t : String) (s : ByteScan) : Prop where
  spanStart_le : s.spanStart ≤ s.index
  index_le : s.index ≤ t.utf8ByteSize
  isBoundary_spanStart : IsBoundary t s.spanStart
  isBoundary_index : IsBoundary t s.index
  text_iff : s.phase ≠ .tag → (s.phase = .text ↔ s.spanStart < s.index)
  made_up : ∃ span, slice? t s.spanStart s.index = some span ∧
    slice? t 0 s.index = some (s.written d ++ span)

end ByteScan

/-! ## The parts of the template -/

namespace Scan

variable {d : Delimiters} {t : String} {s : Scan} {c : Char} {r : List Char}

/-- What is not yet looked at. -/
def restText (s : Scan) : String := String.ofList s.rest

/-- The template up to the span. -/
def before (d : Delimiters) (s : Scan) : String :=
  renderAll d s.found.reverse ++ if s.phase = .tag then d.opening else ""

/-- The template as far as it has been looked at. -/
def looked (d : Delimiters) (s : Scan) : String := s.before d ++ s.spanText

/-- What has been looked at and what is left make up the template. Outside of a placeholder there is
a span if and only if a text is under way. -/
structure Splits (d : Delimiters) (t : String) (s : Scan) : Prop where
  eq : t = s.looked d ++ s.restText
  text_iff : s.phase ≠ .tag → (s.phase = .text ↔ s.span ≠ [])

/-- The same scan by offsets. -/
def offsets (d : Delimiters) (s : Scan) : ByteScan :=
  ⟨s.phase, s.found.reverse, (s.before d).utf8ByteSize, (s.looked d).utf8ByteSize⟩

theorem before_take : (s.take [c] r).before d = s.before d := by
  cases hs : s.phase <;> simp [take, before, hs, Phase.within]

theorem looked_take : (s.take [c] r).looked d = s.looked d ++ String.singleton c := by
  have hspan : (s.take [c] r).spanText = s.spanText ++ String.singleton c := by
    simp [take, spanText, String.ofList_append]
  rw [looked, before_take, hspan, looked, String.append_assoc]

theorem renderAll_foundWithText :
    renderAll d s.foundWithText.reverse = renderAll d s.found.reverse ++ s.spanText := by
  unfold foundWithText
  split
  · next h =>
    have hspan : s.spanText = "" := by simp [spanText, List.isEmpty_iff.1 h]
    rw [hspan, String.append_empty]
  · rw [List.reverse_cons, renderAll_append, renderAll_cons, renderAll_nil, Segment.render,
      String.append_empty]

theorem spanText_takeTag : (s.takeTag r).spanText = "" := by
  cases hs : s.phase <;> simp [takeTag, hs, spanText]

theorem looked_takeTag :
    (s.takeTag r).looked d = s.looked d ++ String.ofList (s.phase.sought d) := by
  cases hs : s.phase with
  | tag =>
    have hcontent : renderAll d (s.takeTag r).found.reverse =
        renderAll d s.found.reverse ++ (d.opening ++ s.spanText ++ d.closing) := by
      simp only [takeTag, hs, List.reverse_cons, renderAll_append]
      rw [renderAll_cons, renderAll_nil, String.append_empty]
      rfl
    have hphase : (s.takeTag r).phase = .start := by simp [takeTag, hs]
    simp [looked, before, hcontent, spanText_takeTag, hphase, hs, Phase.sought, String.append_assoc]
  | start | text =>
    have hfound : renderAll d (s.takeTag r).found.reverse =
        renderAll d s.found.reverse ++ s.spanText := by
      simp only [takeTag, hs]
      exact renderAll_foundWithText
    have hphase : (s.takeTag r).phase = .tag := by simp [takeTag, hs]
    simp [looked, before, hfound, spanText_takeTag, hphase, hs, Phase.sought, String.append_assoc]

theorem splits_init (d : Delimiters) (t : String) : (Scan.init t.toList).Splits d t where
  eq := by simp [looked, before, init, spanText, restText]
  text_iff := by simp [init]

/-- A step takes a character or a tag from what is left. -/
theorem exists_step_eq (h : s.rest ≠ []) :
    (∃ c r, s.rest = c :: r ∧ ¬ s.phase.sought d <+: s.rest ∧ s.step d = s.take [c] r) ∨
      ∃ r, s.rest = s.phase.sought d ++ r ∧ s.step d = s.takeTag r := by
  by_cases hp : s.phase.sought d <+: s.rest
  · obtain ⟨r, hr⟩ := hp
    exact .inr ⟨r, hr.symm, step_tag hr.symm⟩
  · obtain ⟨c, r, hr⟩ := List.exists_cons_of_ne_nil h
    exact .inl ⟨c, r, hr, hp, step_take hr (hr ▸ hp)⟩

/-- **A step keeps the parts of the template together.** -/
theorem Splits.step (h : s.Splits d t) : (s.step d).Splits d t := by
  by_cases hrest : s.rest = []
  · rwa [show s.step d = s by rw [Scan.step, hrest]]
  · rcases exists_step_eq (d := d) hrest with ⟨c, r, hr, -, hstep⟩ | ⟨r, hr, hstep⟩
    · rw [hstep]
      refine ⟨?_, ?_⟩
      · rw [h.eq, looked_take, restText, hr, String.ofList_cons, String.append_assoc]
        rfl
      · cases hs : s.phase <;> simp [take, hs, Phase.within]
    · rw [hstep]
      refine ⟨?_, ?_⟩
      · have hrestText : (s.takeTag r).restText = String.ofList r := by
          cases hs : s.phase <;> simp [takeTag, hs, restText]
        rw [h.eq, looked_takeTag, hrestText, restText, hr, String.ofList_append,
          String.append_assoc]
      · cases hs : s.phase <;> simp [takeTag, hs]

/-! ## The same scan by offsets -/

theorem Splits.slice?_rest (h : s.Splits d t) :
    slice? t (s.offsets d).index t.utf8ByteSize = some s.restText := by
  rw [h.eq]
  exact Text.slice?_append_right (s.looked d) s.restText

theorem Splits.slice?_span (h : s.Splits d t) :
    slice? t (s.offsets d).spanStart (s.offsets d).index = some s.spanText := by
  rw [h.eq]
  exact Text.slice?_append (s.before d) s.spanText s.restText

/-- There is a span if and only if the offsets differ. -/
theorem spanStart_lt_index_iff :
    (s.offsets d).spanStart < (s.offsets d).index ↔ s.span ≠ [] := by
  have hsize : (s.offsets d).index = (s.offsets d).spanStart + s.spanText.utf8ByteSize :=
    String.utf8ByteSize_append
  rw [hsize, Nat.lt_add_right_iff_pos, Nat.pos_iff_ne_zero, Ne, String.utf8ByteSize_eq_zero_iff]
  simp [spanText]

theorem Splits.sound (h : s.Splits d t) : (s.offsets d).Sound d t where
  spanStart_le := by
    rw [offsets, looked, String.utf8ByteSize_append]
    exact Nat.le_add_right _ _
  index_le := by
    rw [h.eq, String.utf8ByteSize_append]
    exact Nat.le_add_right _ _
  isBoundary_spanStart := by
    rw [h.eq, looked, String.append_assoc]
    exact Text.isBoundary_append _ _
  isBoundary_index := by
    rw [h.eq]
    exact Text.isBoundary_append _ _
  text_iff hphase := (h.text_iff hphase).trans spanStart_lt_index_iff.symm
  made_up := by
    refine ⟨s.spanText, h.slice?_span, ?_⟩
    rw [h.eq]
    exact Text.slice?_append_left (s.looked d) s.restText

/-- Every step looks further. -/
theorem index_lt_index_step (h : s.rest ≠ []) :
    (s.offsets d).index < ((s.step d).offsets d).index := by
  have hlooked : ∃ x, x ≠ "" ∧ (s.step d).looked d = s.looked d ++ x := by
    rcases exists_step_eq (d := d) h with ⟨c, r, -, -, hstep⟩ | ⟨r, -, hstep⟩
    · exact ⟨String.singleton c, by simp, by rw [hstep, looked_take]⟩
    · obtain ⟨c, cs, htag⟩ := s.phase.exists_sought_eq_cons d
      exact ⟨String.ofList (s.phase.sought d), by simp [htag], by rw [hstep, looked_takeTag]⟩
  obtain ⟨x, hx, hlooked⟩ := hlooked
  rw [offsets, offsets, hlooked, String.utf8ByteSize_append, Nat.lt_add_right_iff_pos,
    Nat.pos_iff_ne_zero, Ne, String.utf8ByteSize_eq_zero_iff]
  exact hx

/-- A tag is found by its bytes where it is found by its characters. -/
theorem isPrefixOf_utf8_restText (tag : String) :
    (utf8 tag).isPrefixOf (utf8 s.restText) = decide (tag.toList <+: s.rest) := by
  rw [Bool.eq_iff_iff, List.isPrefixOf_iff_prefix, Text.utf8_prefix_iff, decide_eq_true_iff,
    restText, String.toList_ofList]

theorem offsets_take :
    (s.take [c] r).offsets d =
      ⟨s.phase.within, s.found.reverse, (s.offsets d).spanStart,
        (s.offsets d).index + c.utf8Size⟩ := by
  rw [offsets, looked_take, before_take, String.utf8ByteSize_append, String.utf8ByteSize_singleton]
  rfl

theorem offsets_takeTag :
    (s.takeTag r).offsets d =
      ⟨(s.takeTag r).phase, (s.takeTag r).found.reverse,
        (s.offsets d).index + (String.ofList (s.phase.sought d)).utf8ByteSize,
        (s.offsets d).index + (String.ofList (s.phase.sought d)).utf8ByteSize⟩ := by
  have hbefore : (s.takeTag r).before d = (s.takeTag r).looked d := by
    rw [looked, spanText_takeTag, String.append_empty]
  rw [offsets, hbefore, looked_takeTag, String.utf8ByteSize_append]
  rfl

/-- **A step by offsets is a step of the scan.** -/
theorem Splits.step?_offsets (h : s.Splits d t) (hrest : s.rest ≠ []) :
    (s.offsets d).step? d t = some ((s.step d).offsets d) := by
  have hslice := h.slice?_rest
  have hspan := h.slice?_span
  have hphase : (s.offsets d).phase = s.phase := rfl
  have hfound : (s.offsets d).found = s.found.reverse := rfl
  have hspanText : (s.offsets d).spanStart < (s.offsets d).index ↔ s.span ≠ [] :=
    spanStart_lt_index_iff
  rcases exists_step_eq (d := d) hrest with ⟨c, r, hr, hp, hstep⟩ | ⟨r, hr, hstep⟩
  · have hsize : firstSize s.restText = c.utf8Size := by simp [firstSize, restText, hr]
    rw [hstep, offsets_take, ByteScan.step?, hslice, hphase]
    cases hs : s.phase <;> rw [hs, Phase.sought] at hp <;>
      simp only [Option.bind_eq_bind, Option.bind_some, isPrefixOf_utf8_restText, hp, hsize, hfound,
        Phase.within, decide_false, Bool.false_eq_true, if_false] <;> rfl
  · have hp : s.phase.sought d <+: s.rest := hr ▸ List.prefix_append _ _
    rw [hstep, offsets_takeTag, ByteScan.step?, hslice, hphase]
    cases hs : s.phase with
    | tag =>
      rw [hs, Phase.sought] at hp
      simp only [Option.bind_eq_bind, Option.bind_some, isPrefixOf_utf8_restText, hp, hspan, hfound,
        decide_true, if_true, takeTag, hs, Phase.sought, List.reverse_cons, String.ofList_toList]
      rfl
    | start | text =>
      rw [hs, Phase.sought] at hp
      simp only [Option.bind_eq_bind, Option.bind_some, isPrefixOf_utf8_restText, hp, hspan, hfound,
        decide_true, if_true, takeTag, hs, Phase.sought, String.ofList_toList, hspanText,
        foundWithText, List.isEmpty_iff]
      by_cases hempty : s.span = []
      · simp [hempty]
      · simp [hempty]

/-- Something is left to look at if and only if the offset is not yet that of the end. -/
theorem Splits.index_lt_iff (h : s.Splits d t) :
    (s.offsets d).index < t.utf8ByteSize ↔ s.rest ≠ [] := by
  have hsize : t.utf8ByteSize = (s.offsets d).index + s.restText.utf8ByteSize := by
    conv_lhs => rw [h.eq]
    exact String.utf8ByteSize_append
  rw [hsize, Nat.lt_add_right_iff_pos, Nat.pos_iff_ne_zero, Ne, String.utf8ByteSize_eq_zero_iff]
  simp [restText]

theorem Splits.index_eq (h : s.Splits d t) (hrest : s.rest = []) :
    (s.offsets d).index = t.utf8ByteSize :=
  Nat.le_antisymm h.sound.index_le (Nat.le_of_not_lt (mt h.index_lt_iff.1 (not_not.2 hrest)))

theorem Splits.advance (h : s.Splits d t) (n : Nat) : (s.advance d n).Splits d t := by
  induction n generalizing s with
  | zero => exact h
  | succ n ih => exact ih h.step

/-- Steps by offsets are as many steps of the scan. -/
theorem Splits.run?_offsets (h : s.Splits d t) (n : Nat) :
    (s.offsets d).run? d t n = some ((s.advance d n).offsets d) := by
  induction n generalizing s with
  | zero => rfl
  | succ n ih =>
    rw [ByteScan.run?]
    by_cases hrest : s.rest = []
    · rw [if_neg (mt h.index_lt_iff.1 (not_not.2 hrest)), advance_of_rest_eq_nil hrest]
    · rw [if_pos (h.index_lt_iff.2 hrest), h.step?_offsets hrest]
      exact ih h.step

theorem rest_advance_eq_nil (n : Nat) (hn : s.rest.length ≤ n) : (s.advance d n).rest = [] := by
  induction n generalizing s with
  | zero => exact List.length_eq_zero_iff.1 (Nat.le_zero.1 hn)
  | succ n ih =>
    by_cases hrest : s.rest = []
    · rwa [advance_of_rest_eq_nil hrest]
    · have hlt := length_rest_step_lt (d := d) hrest
      exact ih (by omega)

/-- At the end the segments taken out by offsets are those of the scan. -/
theorem Splits.segments?_offsets (h : s.Splits d t) (hrest : s.rest = []) :
    (s.offsets d).segments? t = some s.segments? := by
  have hspan : slice? t (s.offsets d).spanStart t.utf8ByteSize = some s.spanText :=
    h.index_eq hrest ▸ h.slice?_span
  have hphase : (s.offsets d).phase = s.phase := rfl
  have hfound : (s.offsets d).found = s.found.reverse := rfl
  rw [ByteScan.segments?, segments?, hphase, hspan, hfound]
  cases hs : s.phase with
  | tag => rfl
  | start =>
    have hempty : s.span = [] := by simpa [hs] using h.text_iff
    simp [foundWithText, hempty]
  | text =>
    have hne : s.span ≠ [] := by simpa [hs] using h.text_iff
    simp [foundWithText, hne]

end Scan

/-- **The scan by offsets cuts only between characters, and it always comes further.** After any
number of steps there is a scan and not a character cut: its offsets are boundaries of the template,
and what it has found and what is under way make up what has been looked at (`ByteScan.Sound`). It
stands where the scan of the characters does. Where it is not at the end there is a next step, and
this looks further. After as many steps as the template has characters it is at the end, and gives
the segments of the template. -/
theorem byteScan_keeps_boundaries (d : Delimiters) (t : String) (n : Nat) :
    ∃ s, ByteScan.init.run? d t n = some s ∧ s.Sound d t ∧
      s = ((Scan.init t.toList).advance d n).offsets d ∧
      (s.index < t.utf8ByteSize → ∃ s', s.step? d t = some s' ∧ s.index < s'.index) ∧
      (t.length ≤ n →
        s.index = t.utf8ByteSize ∧ s.segments? t = some (Template.segments? d t)) := by
  have hinit : ByteScan.init = (Scan.init t.toList).offsets d := by
    simp [ByteScan.init, Scan.offsets, Scan.init, Scan.looked, Scan.before, Scan.spanText]
  have hsplits := (Scan.splits_init d t).advance n
  refine ⟨_, by rw [hinit]; exact (Scan.splits_init d t).run?_offsets n, hsplits.sound, rfl,
    ?next, ?atEnd⟩
  case next =>
    intro hlt
    have hrest := hsplits.index_lt_iff.1 hlt
    exact ⟨_, hsplits.step?_offsets hrest, Scan.index_lt_index_step hrest⟩
  case atEnd =>
    intro hn
    have hlength : (Scan.init t.toList).rest.length ≤ n := by
      rwa [Scan.init, String.length_toList]
    have hrest := Scan.rest_advance_eq_nil (d := d) n hlength
    have hsegments : Template.segments? d t =
        ((Scan.init t.toList).advance d n).segments? := by
      rw [Template.segments?, Scan.advance_congr (m := t.length) (n := n) _ hlength]
      rw [Scan.init, String.length_toList]
    refine ⟨hsplits.index_eq hrest, ?_⟩
    rw [hsegments]
    exact hsplits.segments?_offsets hrest

end Rulebook
