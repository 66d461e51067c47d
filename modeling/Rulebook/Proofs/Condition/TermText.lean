import Rulebook.Condition
import Rulebook.Proofs.Compile.Cases
import Rulebook.Proofs.Template.Content
import Rulebook.Proofs.Template.Decomposition

/-!
# Terms in writing

A term can be written as a template or as a bare content. `HoldsOne d t content` says that the
template `t` holds one complete placeholder, with that content: no tag is opened before it or after
it, and its content ends where it is first closed.

**Theorem (`ofText_of_holdsOne_or_bare`).** A text that holds one placeholder writes the term of its
content, whatever else stands in it, and every other text writes the term of the whole text. So a
key between braces writes the term that a matcher of this key asks about, as long as the braces
after the key are the first that close it.

**Theorem (`ofText_text_ofText`).** The term of a text with one placeholder is written as a text of
the same term.

For the first, a template that holds one placeholder is what three canonical segments write, the
texts being left out where they are empty, and canonical segments with one placeholder are these.
For the second, nothing that is dropped from a content makes a closing tag out of its rest: what is
dropped comes after a closing parenthesis, which is followed by another one or by the end, and the
tag has no parenthesis.
-/

namespace Rulebook

variable {d : Delimiters}

/-! ## Templates of one placeholder -/

/-- The template holds one complete placeholder, with this content, and opens no other. -/
def HoldsOne (d : Delimiters) (t content : String) : Prop :=
  ∃ before after, t = before ++ d.wrap content ++ after ∧
    FirstAt d.opening.toList before.toList ∧ FirstAt d.closing.toList content.toList ∧
    ¬ d.opening.toList <:+: after.toList

theorem Delimiters.not_infix_nil (d : Delimiters) : ¬ d.opening.toList <:+: [] := by
  rw [List.infix_nil]
  simpa using d.opening_ne

theorem holdsOne_wrap {content : String} (h : FirstAt d.closing.toList content.toList) :
    HoldsOne d (d.wrap content) content :=
  ⟨"", "", by simp, firstAt_nil _, h, d.not_infix_nil⟩

theorem filterMap_before_append (x : List Char) (S : List Segment) :
    (Segment.before x ++ S).filterMap Segment.placeholder? =
      S.filterMap Segment.placeholder? := by
  unfold Segment.before
  split
  · rfl
  · rw [List.singleton_append, List.filterMap_cons_none rfl]

theorem filterMap_placeholder_cons (content : String) (p : Placeholder) (S : List Segment) :
    (.placeholder content p :: S).filterMap Segment.placeholder? =
      p :: S.filterMap Segment.placeholder? :=
  List.filterMap_cons_some rfl

theorem HoldsOne.ne_empty {t content : String} (h : HoldsOne d t content) : t ≠ "" := by
  obtain ⟨before, after, rfl, -⟩ := h
  simp [Delimiters.wrap, d.opening_ne]

/-- What holds one placeholder is split into it and the texts around it. -/
theorem HoldsOne.placeholders {t content : String} (h : HoldsOne d t content) :
    ∃ S, Template.segments? d t = some S ∧
      S.filterMap Segment.placeholder? = [.parse content] := by
  obtain ⟨before, after, rfl, hbefore, hcontent, hafter⟩ := h
  let S := Segment.before before.toList ++ .ofContent content :: Segment.before after.toList
  have hcanonical : Canonical d S :=
    .before_placeholder hbefore (.placeholder hcontent (.before (by rwa [String.ofList_toList])))
  have hrender : renderAll d S = before ++ d.wrap content ++ after := by
    rw [← String.toList_inj, toList_renderAll_before, Segment.ofContent,
      toList_renderAll_placeholder, toList_renderAll_before_self]
    simp [Delimiters.wrap]
  refine ⟨S, hrender ▸ Template.segments?_renderAll hcanonical, ?_⟩
  have hafter : (Segment.before after.toList).filterMap Segment.placeholder? = [] := by
    have hnil := filterMap_before_append after.toList []
    rwa [List.append_nil] at hnil
  rw [filterMap_before_append, Segment.ofContent, filterMap_placeholder_cons, hafter]

/-- Canonical segments without a placeholder open no tag. -/
theorem Canonical.not_infix {S : List Segment} (hS : Canonical d S)
    (h : S.filterMap Segment.placeholder? = []) :
    ¬ d.opening.toList <:+: (renderAll d S).toList := by
  cases hS with
  | nil => exact d.not_infix_nil
  | lastText _ hx => simpa [renderAll, Segment.render] using hx
  | text _ _ hS => cases hS; simp [Segment.placeholder?] at h
  | placeholder => simp [Segment.ofContent, Segment.placeholder?] at h

theorem Canonical.holdsOne_append {before content : String} {S : List Segment}
    (hS : Canonical d S) (h : S.filterMap Segment.placeholder? = [])
    (hbefore : FirstAt d.opening.toList before.toList)
    (hcontent : FirstAt d.closing.toList content.toList) :
    HoldsOne d (before ++ renderAll d (.ofContent content :: S)) content := by
  refine ⟨before, renderAll d S, ?_, hbefore, hcontent, hS.not_infix h⟩
  rw [renderAll_cons, Segment.ofContent, Segment.render, String.append_assoc]

/-- Canonical segments with one placeholder write a template that holds it. -/
theorem Canonical.holdsOne {S : List Segment} {p : Placeholder} (hS : Canonical d S)
    (h : S.filterMap Segment.placeholder? = [p]) :
    ∃ content, HoldsOne d (renderAll d S) content ∧ p = .parse content := by
  cases hS with
  | nil => cases h
  | lastText => cases h
  | @text x content _ S _ hx hS =>
    cases hS with
    | placeholder hcontent hS =>
      rw [List.filterMap_cons_none rfl, filterMap_placeholder_cons, List.cons.injEq] at h
      obtain ⟨rfl, h⟩ := h
      refine ⟨content, ?_, rfl⟩
      rw [renderAll_cons, Segment.render]
      exact Canonical.holdsOne_append hS h hx hcontent
  | @placeholder content S hcontent hS =>
    rw [Segment.ofContent, filterMap_placeholder_cons, List.cons.injEq] at h
    obtain ⟨rfl, h⟩ := h
    refine ⟨content, ?_, rfl⟩
    rw [← String.empty_append (s := renderAll d _)]
    exact Canonical.holdsOne_append hS h (firstAt_nil _) hcontent

/-- A template is split into segments with one placeholder only if it holds one. -/
theorem exists_holdsOne {t : String} {p : Placeholder}
    (h : ((Template.segments? d t).getD []).filterMap Segment.placeholder? = [p]) :
    ∃ content, HoldsOne d t content ∧ p = .parse content := by
  rcases canonical_or_leavesOpen d t with ⟨S, hS, rfl⟩ | hopen
  · rw [Template.segments?_renderAll hS] at h
    exact hS.holdsOne h
  · rw [Template.segments?_of_leavesOpen hopen] at h
    cases h

/-! ## The term that a text writes -/

namespace Term

variable {s content : String}

theorem value_ofText (h : s ≠ "") :
    (ofText s).value = .placeholder (.ofSegments s (Template.segments? .braces s)) := by
  rw [ofText, if_neg h, Traced.value_bind, Traced.value_pure, Template.value_split]

/-- A text that holds one placeholder writes the term of its content. -/
theorem ofText_of_holdsOne (h : HoldsOne .braces s content) :
    (ofText s).value = .placeholder (.parse content) := by
  obtain ⟨S, hS, hplaceholders⟩ := h.placeholders
  rw [value_ofText h.ne_empty, hS, Placeholder.ofSegments, Option.getD_some, hplaceholders]

/-- Any other text writes the term of the whole text. -/
theorem ofText_of_not_holdsOne (hs : s ≠ "") (h : ∀ content, ¬ HoldsOne .braces s content) :
    (ofText s).value = .placeholder (.parse s) := by
  rw [value_ofText hs, Placeholder.ofSegments]
  split
  · next p hp =>
    obtain ⟨content, hcontent, -⟩ := exists_holdsOne hp
    exact absurd hcontent (h content)
  · rfl

theorem not_holdsOne_of_not_infix (h : ¬ d.opening.toList <:+: s.toList) :
    ¬ HoldsOne d s content := by
  rintro ⟨before, after, rfl, -⟩
  apply h
  simp only [Delimiters.wrap, String.toList_append, List.append_assoc]
  exact List.infix_append' _ _ _

end Term

/-! ## The term of a matcher's key -/

/-- The condition asks about a term in the way of matchers: it checks the term, compares it with a
fixed value, or consists of such conditions. -/
inductive Condition.AsksAbout (t : Term) : Condition → Prop
  | check (operator : String) : AsksAbout t (.check operator t)
  | comparison (operator : String) (v : Value) : AsksAbout t (.comparison t operator (.literal v))
  | any {members : List Condition} (hne : members ≠ []) (h : ∀ m ∈ members, AsksAbout t m) :
      AsksAbout t (.any members)

theorem MatcherDefinition.asksAbout_keyTerm {m : MatcherDefinition} {c : Condition}
    (h : m.compile = .ok c) : c.AsksAbout m.keyTerm := by
  obtain ⟨o, -, -, ⟨-, rfl⟩ | ⟨-, v, -, rfl⟩ | ⟨-, hne, rfl⟩⟩ := compile_eq_ok h
  · exact .check o.name
  · exact .comparison o.name v
  · refine .any (by simpa using hne) fun c hc => ?_
    obtain ⟨v, -, rfl⟩ := List.mem_map.1 hc
    exact .comparison o.name v

/-- A text is closed where it ends if it does not hold two closing braces, nor end in one that
could be the first of two. -/
theorem firstAt_closing_braces {x : List Char}
    (h : ¬ Delimiters.braces.closing.toList <:+: x) (hlast : ¬ ['\x7d'] <:+ x) :
    FirstAt Delimiters.braces.closing.toList x := by
  rcases List.eq_nil_or_concat' x with rfl | ⟨y, c, rfl⟩
  · exact firstAt_nil _
  · have hc : c ∉ Delimiters.braces.closing.toList := by
      intro hmem
      obtain rfl : c = '\x7d' := by simpa [Delimiters.braces] using hmem
      exact hlast (List.suffix_append y _)
    exact firstAt_concat hc fun hy => h (hy.trans (List.prefix_append y [c]).isInfix)

/-- **Two ways of writing a term.** A text that holds one placeholder, whatever else stands in it,
writes the term of its content. Every other text writes the term of the whole text, if it is not
empty, and so does in particular a text that opens no braces. What a matcher compiles to asks about
the term that its key writes between braces, if the key holds no closing braces and does not end in
a brace. -/
theorem ofText_of_holdsOne_or_bare :
    (∀ s content, HoldsOne .braces s content →
        (Term.ofText s).value = .placeholder (.parse content)) ∧
      (∀ s, s ≠ "" → (∀ content, ¬ HoldsOne .braces s content) →
        (Term.ofText s).value = .placeholder (.parse s)) ∧
      (∀ s, s ≠ "" → ¬ Delimiters.braces.opening.toList <:+: s.toList →
        (Term.ofText s).value = .placeholder (.parse s)) ∧
      ∀ (m : MatcherDefinition) (c : Condition), m.compile = .ok c →
        ¬ Delimiters.braces.closing.toList <:+: m.key.toList → ¬ ['\x7d'] <:+ m.key.toList →
          c.AsksAbout (Term.ofText (Delimiters.braces.wrap m.key)).value := by
  refine ⟨fun s content => Term.ofText_of_holdsOne, fun s => Term.ofText_of_not_holdsOne,
    fun s hs hopen => ?_, fun m c hc hclosing hlast => ?_⟩
  · exact Term.ofText_of_not_holdsOne hs fun content => Term.not_holdsOne_of_not_infix hopen
  · have hkey := holdsOne_wrap (firstAt_closing_braces hclosing hlast)
    rw [Term.ofText_of_holdsOne hkey]
    exact MatcherDefinition.asksAbout_keyTerm hc

/-- A matcher with a call for its key. -/
def largeAmount : MatcherDefinition :=
  ⟨"int(order.amount)", "ge", [.str "10", .num (.whole 1000 (by decide))]⟩

/-- What `largeAmount` compiles to. -/
def largeAmountCondition : Condition :=
  .any (largeAmount.values.map fun v =>
    .comparison largeAmount.keyTerm "greaterThanOrEquals" (.literal v))

/-- Text around a placeholder and stray braces, two placeholders, no braces, and a key. -/
theorem ofText_of_holdsOne_or_bare_largeAmount :
    (HoldsOne .braces "\x7d\x7d\x7b \x7b\x7ba\x7bb\x7d\x7d\x7d" "a\x7bb" ∧
        (Term.ofText "\x7d\x7d\x7b \x7b\x7ba\x7bb\x7d\x7d\x7d").value =
          .placeholder (.ref "a\x7bb")) ∧
      ((∀ content, ¬ HoldsOne .braces "\x7b\x7ba\x7d\x7d\x7b\x7bb\x7d\x7d" content) ∧
        (Term.ofText "\x7b\x7ba\x7d\x7d\x7b\x7bb\x7d\x7d").value =
          .placeholder (.ref "\x7b\x7ba\x7d\x7d\x7b\x7bb\x7d\x7d")) ∧
      (Term.ofText "int(x)").value = .placeholder (.call "int" (.ref "x")) ∧
      largeAmount.compile = .ok largeAmountCondition ∧
        largeAmountCondition.AsksAbout
          (Term.ofText (Delimiters.braces.wrap "int(order.amount)")).value := by
  obtain ⟨hone, hwhole, hbare, hkey⟩ := ofText_of_holdsOne_or_bare
  have hholds : HoldsOne .braces "\x7d\x7d\x7b \x7b\x7ba\x7bb\x7d\x7d\x7d" "a\x7bb" :=
    ⟨"\x7d\x7d\x7b ", "\x7d", by decide, by decide, by decide, by decide⟩
  have htwo : ∀ content, ¬ HoldsOne .braces "\x7b\x7ba\x7d\x7d\x7b\x7bb\x7d\x7d" content := by
    intro content h
    obtain ⟨S, hS, hp⟩ := h.placeholders
    have hsplit : Template.segments? .braces "\x7b\x7ba\x7d\x7d\x7b\x7bb\x7d\x7d" =
        some [.ofContent "a", .ofContent "b"] := by cbv
    obtain rfl := Option.some.inj (hsplit.symm.trans hS)
    have hlength : 2 = 1 := congrArg List.length hp
    exact absurd hlength (by decide)
  have hcompile : largeAmount.compile = .ok largeAmountCondition := by cbv
  refine ⟨⟨hholds, (hone _ _ hholds).trans (by cbv)⟩,
    ⟨htwo, (hwhole _ (by decide) htwo).trans (by cbv)⟩,
    (hbare "int(x)" (by decide) (by decide)).trans (by cbv), hcompile, ?_⟩
  exact hkey largeAmount largeAmountCondition hcompile (by decide) (by decide)

/-! ## Terms written and read again -/

namespace Placeholder

variable {tag : List Char} {s name argument dropped kept : String} {p : Placeholder}

/-- A tag without parentheses stands in one of the parts of a call. -/
theorem IsCall.infix_iff (h : IsCall s name argument dropped) (hopening : '(' ∉ tag)
    (hclosing : ')' ∉ tag) :
    tag <:+: s.toList ↔
      tag <:+: name.toList ∨ tag <:+: argument.toList ∨ tag <:+: dropped.toList := by
  rw [h.toList_eq, infix_append_cons_iff hopening, infix_append_cons_iff hclosing]

/-- No tag comes to stand in what is kept of a content. -/
theorem Reads.not_infix_kept (h : Reads s p kept) (hopening : '(' ∉ tag) (hclosing : ')' ∉ tag)
    (hs : ¬ tag <:+: s.toList) : ¬ tag <:+: kept.toList := by
  induction h with
  | ref => exact hs
  | call h ha ih =>
    rw [h.infix_iff hopening hclosing, not_or, not_or] at hs
    obtain ⟨hname, hargument, -⟩ := hs
    have hcall := isCall_call h.name_opens_none (ha.kept_ne h.argument_ne)
    rw [hcall.infix_iff hopening hclosing, not_or, not_or]
    -- Nothing comes after what is kept, and only the empty tag would stand there.
    refine ⟨hname, ih hargument, fun hnil => hname ?_⟩
    obtain rfl := List.infix_nil.1 hnil
    exact List.nil_infix

/-- What is kept of a content is closed where it ends, as the content was. -/
theorem Reads.firstAt_kept (h : Reads s p kept) (hopening : '(' ∉ tag) (hclosing : ')' ∉ tag)
    (hne : tag ≠ []) (hs : FirstAt tag s.toList) : FirstAt tag kept.toList := by
  have hkept := h.not_infix_kept hopening hclosing (hs.not_infix hne)
  cases h with
  | ref => exact hs
  | call =>
    -- What is kept ends in a parenthesis, which the tag does not have.
    rw [String.toList_append] at hkept ⊢
    exact firstAt_concat hclosing fun h => hkept (h.trans (List.prefix_append _ _).isInfix)

end Placeholder

/-- The term of a content, if it is closed where it ends, is written as a text of the same term. -/
theorem Term.ofText_text_parse {content : String}
    (h : FirstAt Delimiters.braces.closing.toList content.toList) :
    (ofText (text (.placeholder (.parse content)))).value = .placeholder (.parse content) := by
  have hreads := Placeholder.reads_parse content
  have hkept := hreads.firstAt_kept (by decide) (by decide) (by decide) h
  rw [text, ofText_of_holdsOne (holdsOne_wrap hkept), hreads.parse_kept]

/-- **The text of a term writes the term.** The term of a text with exactly one placeholder is
written as a text of the same term, which is then written in the same way. -/
theorem ofText_text_ofText {s : String} {S : List Segment}
    (hS : (Template.split .braces s).value = some S)
    (hone : (S.filterMap Segment.placeholder?).length = 1) :
    (Term.ofText (Term.ofText s).value.text).value = (Term.ofText s).value ∧
      (Term.ofText (Term.ofText s).value.text).value.text = (Term.ofText s).value.text := by
  obtain ⟨p, hp⟩ := List.length_eq_one_iff.1 hone
  have hplaceholder :
      ((Template.segments? .braces s).getD []).filterMap Segment.placeholder? = [p] := by
    rw [← Template.value_split, hS, Option.getD_some, hp]
  obtain ⟨content, hholds, -⟩ := exists_holdsOne hplaceholder
  have hclosed : FirstAt Delimiters.braces.closing.toList content.toList := by
    obtain ⟨-, -, -, -, hclosed, -⟩ := hholds
    exact hclosed
  have hterm : (Term.ofText (Term.ofText s).value.text).value = (Term.ofText s).value := by
    rw [Term.ofText_of_holdsOne hholds, Term.ofText_text_parse hclosed]
  exact ⟨hterm, congrArg Term.text hterm⟩

/-- A placeholder of which text is dropped twice, with text around it. -/
theorem ofText_text_ofText_nested :
    let s := "no. \x7b\x7bf(g(a)b)c\x7d\x7d!"
    (Template.split .braces s).value = some [.text "no. ", .ofContent "f(g(a)b)c", .text "!"] ∧
      (Term.ofText s).value.text = Delimiters.braces.wrap "f(g(a))" ∧
      (Term.ofText (Delimiters.braces.wrap "f(g(a))")).value = (Term.ofText s).value := by
  intro s
  have hsplit : (Template.split .braces s).value =
      some [.text "no. ", .ofContent "f(g(a)b)c", .text "!"] := by
    simp only [s]
    cbv
  have hcontent : Placeholder.parse "f(g(a)b)c" = .call "f" (.call "g" (.ref "a")) := by cbv
  have htext : (Term.ofText s).value.text = Delimiters.braces.wrap "f(g(a))" := by
    rw [Term.value_ofText (by decide), ← Template.value_split, hsplit]
    show Delimiters.braces.wrap (Placeholder.parse "f(g(a)b)c").content = _
    rw [hcontent]
    rfl
  have hterm := (ofText_text_ofText hsplit rfl).1
  rw [htext] at hterm
  exact ⟨hsplit, htext, hterm⟩

end Rulebook
