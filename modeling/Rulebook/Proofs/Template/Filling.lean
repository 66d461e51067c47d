import Rulebook.Template.Fill
import Rulebook.Proofs.Condition.Footprint
import Rulebook.Proofs.Template.Decomposition

/-!
# Filling in a template

`Segment.FilledBy` says what text a segment makes way for: a text for itself, a placeholder for
nothing, for its string, or for the JSON text of its value.

**Theorem (`fill_all_or_nothing`).** A template that can be split is filled in by putting one text
after the other in the place of its segments, and all that is done for it is to resolve each of its
placeholders once, in order. A template that leaves a tag open stays as it is, and nothing at all is
resolved.

The template is split before anything is filled in, and what is filled in is never split. So the
texts are put together without a look at what they contain, be it tags.
-/

namespace Rulebook

variable {ctx : Context}

/-! ## Segments -/

/-- The text that a segment makes way for. -/
inductive Segment.FilledBy (ctx : Context) : Segment → String → Prop
  | text (x : String) : FilledBy ctx (.text x) x
  | nothing {content : String} {p : Placeholder}
      (h : (p.resolve ctx).value = none ∨ (p.resolve ctx).value = some .null) :
      FilledBy ctx (.placeholder content p) ""
  | string {content x : String} {p : Placeholder} (h : (p.resolve ctx).value = some (.str x)) :
      FilledBy ctx (.placeholder content p) x
  | json {content : String} {p : Placeholder} {v : Value} (h : (p.resolve ctx).value = some v)
      (hnull : v ≠ .null) (hstr : ∀ x, v ≠ .str x) : FilledBy ctx (.placeholder content p) v.text

/-- The events of resolving some placeholders one after the other. -/
def Context.resolveTrace (ctx : Context) (placeholders : List Placeholder) : List Event :=
  placeholders.flatMap fun p => (p.resolve ctx).trace

theorem Context.resolveTrace_append (first second : List Placeholder) :
    ctx.resolveTrace (first ++ second) = ctx.resolveTrace first ++ ctx.resolveTrace second :=
  List.flatMap_append

namespace Segment

theorem filledBy_fill (s : Segment) : s.FilledBy ctx (s.fill ctx).value := by
  cases s with
  | text x => exact .text x
  | placeholder content p =>
    rw [fill, Traced.value_bind, Traced.value_pure]
    cases hp : (p.resolve ctx).value with
    | none => exact .nothing (.inl hp)
    | some v =>
      cases v with
      | null => exact .nothing (.inr hp)
      | str x => exact .string hp
      | bool | num | arr | obj => exact .json hp (by simp) (by simp)

theorem trace_fill (s : Segment) :
    (s.fill ctx).trace = ctx.resolveTrace s.placeholder?.toList := by
  cases s with
  | text x => rfl
  | placeholder content p =>
    rw [fill, Traced.trace_bind, Traced.trace_pure, List.append_nil]
    simp [placeholder?, Context.resolveTrace]

end Segment

/-- Each segment is filled in, and the texts are put together in order. -/
theorem filledBy_fillSegments (S : List Segment) :
    ∃ texts, List.Forall₂ (Segment.FilledBy ctx) S texts ∧
      (fillSegments ctx S).value = String.join texts := by
  induction S with
  | nil => exact ⟨[], .nil, rfl⟩
  | cons s S ih =>
    obtain ⟨texts, hfilled, hjoin⟩ := ih
    refine ⟨(s.fill ctx).value :: texts, .cons s.filledBy_fill hfilled, ?_⟩
    rw [fillSegments, Traced.value_bind, Traced.value_bind, Traced.value_pure, hjoin,
      String.join_cons]

theorem trace_fillSegments (S : List Segment) :
    (fillSegments ctx S).trace = ctx.resolveTrace (S.filterMap Segment.placeholder?) := by
  induction S with
  | nil => rfl
  | cons s S ih =>
    have hcons : (s :: S).filterMap Segment.placeholder? =
        s.placeholder?.toList ++ S.filterMap Segment.placeholder? := by
      cases s <;> rfl
    rw [fillSegments, Traced.trace_bind, Traced.trace_bind, Traced.trace_pure, List.append_nil,
      Segment.trace_fill, ih, hcons, Context.resolveTrace_append]

/-- Resolving looks up one path for each placeholder. -/
theorem paths_resolveTrace (placeholders : List Placeholder) :
    (ctx.resolveTrace placeholders).filterMap Event.path? = placeholders.map Placeholder.path := by
  induction placeholders with
  | nil => rfl
  | cons p rest ih =>
    have hp : (p.resolve ctx).trace.filterMap Event.path? = [p.path] := p.paths_resolve ctx
    rw [Context.resolveTrace, List.flatMap_cons, List.filterMap_append, hp]
    exact congrArg (p.path :: ·) ih

/-! ## Templates -/

namespace Template

variable {d : Delimiters} {t : String}

theorem fill_of_segments?_eq_some {S : List Segment} (h : segments? d t = some S) :
    fill d ctx t = fillSegments ctx S := by
  rw [fill, split, h]
  rfl

/-- Nothing but two log lines comes of a template that cannot be split. -/
theorem fill_of_segments?_eq_none (h : segments? d t = none) :
    (fill d ctx t).value = t ∧ ∀ e ∈ (fill d ctx t).trace, ∃ line, e = .log line := by
  rw [fill, split, h]
  refine ⟨rfl, fun e he => ?_⟩
  rcases List.mem_cons.1 he with rfl | he
  · exact ⟨_, rfl⟩
  · exact ⟨_, List.mem_singleton.1 he⟩

/-- A template without an opening tag is a text, or nothing. -/
theorem segments?_of_not_infix (h : ¬ d.opening.toList <:+: t.toList) :
    segments? d t = some (Segment.before t.toList) := by
  have hcanonical : Canonical d (Segment.before t.toList) :=
    .before (by rwa [String.toList_ofList])
  have hrender : renderAll d (Segment.before t.toList) = t :=
    String.toList_inj.1 (toList_renderAll_before_self t.toList)
  have hsplit := segments?_renderAll hcanonical
  rwa [hrender] at hsplit

theorem fillSegments_before (x : List Char) :
    fillSegments ctx (Segment.before x) = pure (String.ofList x) := by
  unfold Segment.before
  split
  · next hx =>
    rw [hx]
    rfl
  · rw [fillSegments, fillSegments]
    simp [Segment.fill]

end Template

/-- **A template is filled in at one pass, or not at all.** It can be split, or it leaves a tag
open. In the first case it is filled in segment by segment, and just what resolving its placeholders
brings about is brought about, in particular one look-up for each of them, of its path. In the other
case it comes back as it is, and nothing is looked up or converted. So does a template in which no
tag is opened. -/
theorem fill_all_or_nothing (d : Delimiters) (ctx : Context) (t : String) :
    ((∃ S, (Template.split d t).value = some S) ∨ LeavesOpen d t) ∧
      (∀ S, (Template.split d t).value = some S →
        (∃ texts, List.Forall₂ (Segment.FilledBy ctx) S texts ∧
            (Template.fill d ctx t).value = String.join texts) ∧
          (Template.fill d ctx t).trace =
            ctx.resolveTrace (S.filterMap Segment.placeholder?) ∧
          (Template.fill d ctx t).paths =
            (S.filterMap Segment.placeholder?).map Placeholder.path) ∧
      (LeavesOpen d t →
        (Template.fill d ctx t).value = t ∧
          ∀ e ∈ (Template.fill d ctx t).trace, ∃ line, e = .log line) ∧
      (¬ d.opening.toList <:+: t.toList →
        (Template.fill d ctx t).value = t ∧ (Template.fill d ctx t).trace = []) := by
  rw [Template.value_split]
  refine ⟨?_, fun S hS => ?_, fun hopen => ?_, fun hno => ?_⟩
  · rcases canonical_or_leavesOpen d t with ⟨S, hS, rfl⟩ | hopen
    · exact .inl ⟨S, Template.segments?_renderAll hS⟩
    · exact .inr hopen
  · rw [Run.paths, Template.fill_of_segments?_eq_some hS, trace_fillSegments]
    exact ⟨filledBy_fillSegments S, rfl, paths_resolveTrace _⟩
  · exact Template.fill_of_segments?_eq_none (Template.segments?_of_leavesOpen hopen)
  · rw [Template.fill_of_segments?_eq_some (Template.segments?_of_not_infix hno),
      Template.fillSegments_before]
    exact ⟨String.ofList_toList, rfl⟩

/-- Two brackets on each side. -/
def brackets : Delimiters := ⟨"[[", "]]", by decide, by decide⟩

/-- A value that is itself a placeholder in writing is not filled in again. -/
theorem fill_all_or_nothing_brackets :
    let ctx : Context :=
      ⟨fun path => if path = "a" then some (.str "[[b]]") else some (.bool true),
        ⟨fun _ _ _ => pure .success, fun _ _ => pure .success⟩, fun _ v => pure v⟩
    ((Template.split brackets "x[[a]][[b]]").value =
          some [.text "x", .ofContent "a", .ofContent "b"] ∧
        (∃ texts, List.Forall₂ (Segment.FilledBy ctx)
            [.text "x", .ofContent "a", .ofContent "b"] texts ∧
          (Template.fill brackets ctx "x[[a]][[b]]").value = String.join texts) ∧
        (Template.fill brackets ctx "x[[a]][[b]]").value = "x[[b]]true" ∧
        (Template.fill brackets ctx "x[[a]][[b]]").paths = ["a", "b"]) ∧
      (LeavesOpen brackets "[[a]][[b" ∧
        (Template.fill brackets ctx "[[a]][[b").value = "[[a]][[b") ∧
      ¬ brackets.opening.toList <:+: "a]]".toList ∧
        (Template.fill brackets ctx "a]]").value = "a]]" := by
  intro ctx
  have hsplit : (Template.split brackets "x[[a]][[b]]").value =
      some [.text "x", .ofContent "a", .ofContent "b"] := by cbv
  have hopen : LeavesOpen brackets "[[a]][[b" := by
    refine (fill_all_or_nothing brackets ctx "[[a]][[b").1.resolve_left ?_
    have hnone : (Template.split brackets "[[a]][[b").value = none := by cbv
    simp [hnone]
  obtain ⟨hvalue, -, hpaths⟩ := (fill_all_or_nothing brackets ctx "x[[a]][[b]]").2.1 _ hsplit
  refine ⟨⟨hsplit, hvalue, by cbv, hpaths.trans (by cbv)⟩, ⟨hopen, ?_⟩, by decide, ?_⟩
  · exact ((fill_all_or_nothing brackets ctx "[[a]][[b").2.2.1 hopen).1
  · exact ((fill_all_or_nothing brackets ctx "a]]").2.2.2 (by decide)).1

end Rulebook
