import Rulebook.Template.Scan
import Rulebook.Proofs.Template.Grammar

/-!
# How a scan goes on

A scan under way looks for one tag, the opening one or the closing one.

* One step takes a character where the tag does not begin (`step_take`), and the whole tag where it
  does (`step_tag`).
* A scan therefore runs over characters at none of which the tag begins (`finish_take`), and takes
  the tag after them (`finish_takeTag`).
* What it has found then is a text, before the first opening tag (`finish_text`), or a placeholder,
  between an opening tag and the first closing tag after it (`finish_placeholder`).

`finish` is the scan when nothing is left to look at. It is reached in at most as many steps as
there are characters, because every step takes one, and a scan with nothing left stays as it is.
-/

namespace Rulebook

/-! ## Steps -/

/-- The tag that a scan in this phase looks for. -/
def Phase.sought (d : Delimiters) : Phase → List Char
  | .tag => d.closing.toList
  | .start | .text => d.opening.toList

/-- The phase after a character is taken. -/
def Phase.within : Phase → Phase
  | .tag => .tag
  | .start | .text => .text

theorem Phase.within_within (p : Phase) : p.within.within = p.within := by
  cases p <;> rfl

theorem Phase.sought_within (d : Delimiters) (p : Phase) : p.within.sought d = p.sought d := by
  cases p <;> rfl

theorem Phase.exists_sought_eq_cons (d : Delimiters) (p : Phase) :
    ∃ c cs, p.sought d = c :: cs := by
  apply List.exists_cons_of_ne_nil
  cases p with
  | tag => simpa [sought] using d.closing_ne
  | start | text => simpa [sought] using d.opening_ne

namespace Scan

variable {d : Delimiters}

/-- The scan after characters that begin no tag. -/
def take (s : Scan) (x r : List Char) : Scan :=
  ⟨if x = [] then s.phase else s.phase.within, s.found, x.reverse ++ s.span, r⟩

/-- The scan after the tag it looks for. -/
def takeTag (s : Scan) (r : List Char) : Scan :=
  match s.phase with
  | .tag => ⟨.start, .ofContent s.spanText :: s.found, [], r⟩
  | .start | .text => ⟨.tag, s.foundWithText, [], r⟩

theorem sought_take (s : Scan) (x r : List Char) :
    (s.take x r).phase.sought d = s.phase.sought d := by
  unfold take
  split
  · rfl
  · exact s.phase.sought_within d

theorem take_take (s : Scan) (c : Char) (x r r' : List Char) :
    (s.take [c] r).take x r' = s.take (c :: x) r' := by
  cases x with
  | nil => rfl
  | cons a x => simp [take, Phase.within_within]

theorem step_take {s : Scan} {c : Char} {r : List Char} (hr : s.rest = c :: r)
    (hc : ¬ s.phase.sought d <+: c :: r) : s.step d = s.take [c] r := by
  obtain ⟨phase, found, span, rest⟩ := s
  obtain rfl : rest = c :: r := hr
  rw [← List.isPrefixOf_iff_prefix, Bool.not_eq_true] at hc
  cases phase with
  | tag =>
    simp [step, show d.closing.toList.isPrefixOf (c :: r) = false from hc, take, Phase.within]
  | start | text =>
    simp [step, show d.opening.toList.isPrefixOf (c :: r) = false from hc, take, Phase.within]

theorem step_tag {s : Scan} {r : List Char} (hr : s.rest = s.phase.sought d ++ r) :
    s.step d = s.takeTag r := by
  obtain ⟨phase, found, span, rest⟩ := s
  obtain rfl : rest = phase.sought d ++ r := hr
  obtain ⟨c, cs, htag⟩ := phase.exists_sought_eq_cons d
  cases phase with
  | tag =>
    rw [Phase.sought] at htag
    simp [step, takeTag, spanText, Phase.sought, htag, ← String.length_toList]
  | start | text =>
    rw [Phase.sought] at htag
    simp [step, takeTag, foundWithText, spanText, Phase.sought, htag, ← String.length_toList]

/-- A scan ends where nothing is left to look at. -/
theorem advance_of_rest_eq_nil {s : Scan} (h : s.rest = []) (n : Nat) : s.advance d n = s := by
  induction n with
  | zero => rfl
  | succ n ih =>
    have hstep : s.step d = s := by rw [step, h]
    rw [advance, hstep, ih]

/-- Every step takes at least one character. -/
theorem length_rest_step_lt {s : Scan} (h : s.rest ≠ []) :
    (s.step d).rest.length < s.rest.length := by
  obtain ⟨c, r, hr⟩ := List.exists_cons_of_ne_nil h
  by_cases hp : s.phase.sought d <+: c :: r
  · obtain ⟨r', hr'⟩ := hp
    obtain ⟨a, tag, htag⟩ := s.phase.exists_sought_eq_cons d
    have hrest : s.rest = s.phase.sought d ++ r' := hr.trans hr'.symm
    have htake : (s.takeTag r').rest = r' := by
      unfold takeTag
      split <;> rfl
    rw [step_tag hrest, htake, hrest, htag, List.length_append, List.length_cons]
    omega
  · rw [step_take hr hp, hr, List.length_cons]
    exact Nat.lt_succ_self r.length

/-! ## The end of a scan -/

theorem advance_congr {s : Scan} {m n : Nat} (hm : s.rest.length ≤ m) (hn : s.rest.length ≤ n) :
    s.advance d m = s.advance d n := by
  by_cases hr : s.rest = []
  · rw [advance_of_rest_eq_nil hr, advance_of_rest_eq_nil hr]
  · have hpos : 0 < s.rest.length := List.length_pos_of_ne_nil hr
    have hlt := length_rest_step_lt (d := d) hr
    cases m with
    | zero => omega
    | succ m =>
      cases n with
      | zero => omega
      | succ n =>
        rw [advance, advance]
        exact advance_congr (by omega) (by omega)
termination_by m

/-- The scan when nothing is left to look at. -/
def finish (d : Delimiters) (s : Scan) : Scan := s.advance d s.rest.length

theorem finish_of_rest_eq_nil {s : Scan} (h : s.rest = []) : s.finish d = s :=
  advance_of_rest_eq_nil h _

theorem finish_step {s : Scan} (h : s.rest ≠ []) : (s.step d).finish d = s.finish d := by
  have hlt := length_rest_step_lt (d := d) h
  obtain ⟨n, hn⟩ := Nat.exists_eq_succ_of_ne_zero (Nat.ne_of_gt (List.length_pos_of_ne_nil h))
  rw [finish, finish, hn, advance]
  exact advance_congr (Nat.le_refl _) (by omega)

/-- **A scan runs over what begins no tag.** -/
theorem finish_take {s : Scan} {x r : List Char} (hr : s.rest = x ++ r)
    (hx : ∀ i < x.length, ¬ s.phase.sought d <+: s.rest.drop i) :
    (s.take x r).finish d = s.finish d := by
  induction x generalizing s with
  | nil =>
    obtain rfl : s.rest = r := hr
    rfl
  | cons c x ih =>
    have hc : ¬ s.phase.sought d <+: c :: (x ++ r) := by
      have h0 := hx 0 (Nat.succ_pos x.length)
      rwa [hr] at h0
    have hrest : s.rest ≠ [] := by
      rw [hr]
      exact List.cons_ne_nil c (x ++ r)
    rw [← finish_step hrest, step_take hr hc, ← take_take s c x (x ++ r) r]
    refine ih rfl fun i hi => ?_
    rw [sought_take]
    have hi' := hx (i + 1) (Nat.succ_lt_succ hi)
    rwa [hr] at hi'

/-- With the tag it looks for after them, it takes the tag too. -/
theorem finish_takeTag {s : Scan} {x r : List Char}
    (hr : s.rest = x ++ (s.phase.sought d ++ r)) (hx : FirstAt (s.phase.sought d) x) :
    ((s.take x r).takeTag r).finish d = s.finish d := by
  have hover : (s.take x (s.phase.sought d ++ r)).finish d = s.finish d := by
    refine finish_take hr fun i hi => ?_
    rw [hr]
    exact hx.not_prefix_drop r hi
  have hrest : (s.take x (s.phase.sought d ++ r)).rest ≠ [] := by
    obtain ⟨c, cs, htag⟩ := s.phase.exists_sought_eq_cons d
    show s.phase.sought d ++ r ≠ []
    rw [htag]
    exact List.cons_ne_nil c (cs ++ r)
  rw [← hover, ← finish_step hrest, step_tag (r := r) (by rw [sought_take]; rfl)]
  rfl

/-! ## Segments -/

/-- A scan finds a text before the first opening tag. -/
theorem finish_text (found : List Segment) {x r : List Char} (hne : x ≠ [])
    (hx : FirstAt d.opening.toList x) :
    finish d ⟨.start, found, [], x ++ (d.opening.toList ++ r)⟩ =
      finish d ⟨.start, .text (String.ofList x) :: found, [], d.opening.toList ++ r⟩ := by
  have hleft := finish_takeTag (d := d) (s := ⟨.start, found, [], x ++ (d.opening.toList ++ r)⟩)
    rfl hx
  have hright := finish_takeTag (d := d) (x := [])
    (s := ⟨.start, .text (String.ofList x) :: found, [], d.opening.toList ++ r⟩) rfl (firstAt_nil _)
  rw [← hleft, ← hright]
  simp [take, takeTag, Phase.within, foundWithText, spanText, hne]

/-- A scan finds a placeholder between an opening tag and the first closing tag after it. -/
theorem finish_placeholder (found : List Segment) {c r : List Char}
    (hc : FirstAt d.closing.toList c) :
    finish d ⟨.start, found, [], d.opening.toList ++ (c ++ (d.closing.toList ++ r))⟩ =
      finish d ⟨.start, .ofContent (String.ofList c) :: found, [], r⟩ := by
  have hopening := finish_takeTag (d := d) (x := [])
    (s := ⟨.start, found, [], d.opening.toList ++ (c ++ (d.closing.toList ++ r))⟩) rfl
    (firstAt_nil _)
  have hclosing := finish_takeTag (d := d)
    (s := ⟨.tag, found, [], c ++ (d.closing.toList ++ r)⟩) rfl hc
  rw [← hopening]
  show finish d ⟨.tag, found, [], c ++ (d.closing.toList ++ r)⟩ = _
  rw [← hclosing]
  simp [take, takeTag, Phase.within, spanText]

theorem segments?_finish_nil (found : List Segment) :
    (finish d ⟨.start, found, [], []⟩).segments? = some found.reverse := rfl

/-- What stands after the last placeholder is a text, unless nothing does. -/
theorem segments?_finish_text {found : List Segment} {x : List Char} (hne : x ≠ [])
    (hx : ¬ d.opening.toList <:+: x) :
    (finish d ⟨.start, found, [], x⟩).segments? =
      some (found.reverse ++ [.text (String.ofList x)]) := by
  have hover : ((⟨.start, found, [], x⟩ : Scan).take x []).finish d = _ :=
    finish_take (List.append_nil x).symm fun i _ => not_prefix_drop_of_not_infix hx i
  rw [← hover, finish_of_rest_eq_nil rfl]
  simp [take, segments?, Phase.within, foundWithText, spanText, hne]

/-- A template has no segments when no closing tag follows an opening one. -/
theorem segments?_finish_opening {found : List Segment} {r : List Char}
    (hr : ¬ d.closing.toList <:+: r) :
    (finish d ⟨.start, found, [], d.opening.toList ++ r⟩).segments? = none := by
  have hopening := finish_takeTag (d := d) (x := [])
    (s := ⟨.start, found, [], d.opening.toList ++ r⟩) rfl (firstAt_nil _)
  have hover : ((⟨.tag, found, [], r⟩ : Scan).take r []).finish d = _ :=
    finish_take (List.append_nil r).symm fun i _ => not_prefix_drop_of_not_infix hr i
  rw [← hopening]
  show (finish d ⟨.tag, found, [], r⟩).segments? = none
  rw [← hover, finish_of_rest_eq_nil rfl]
  simp [take, segments?, Phase.within]

end Scan

/-- Splitting a template is scanning it to its end. -/
theorem Template.segments?_eq_finish (d : Delimiters) (t : String) :
    segments? d t = ((Scan.init t.toList).finish d).segments? := by
  rw [segments?, Scan.finish, ← String.length_toList]
  rfl

end Rulebook
