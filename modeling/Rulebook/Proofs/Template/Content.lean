import Mathlib.Data.List.Infix
import Mathlib.Data.List.TakeWhile
import Rulebook.Template.Placeholder

/-!
# Reading a content and writing it again

A content is a call if something stands between its first opening parenthesis and its last closing
one (`IsCall`). `Reads s p kept` follows the calls in a content from the outside in: `p` is the
placeholder that they make up, and `kept` is what is left of the content when, at each level, what
comes after the last closing parenthesis is dropped.

**Theorem (`parse_iff_reads_and_parse_content`).** A content reads as the placeholder that `parse`
gives, and what is kept of it is what that placeholder is written as. This reads as the same
placeholder again, and it is the whole content if and only if nothing was there to be dropped. A
placeholder that is not made by reading survives being written and read if and only if no name in
it opens a parenthesis, its path does not read as a call, and the path is not empty inside a call.

What is written of a call is a call again: its name, an argument that something is left of, and
nothing to be dropped. A closing parenthesis with nothing after it can only be the last one
(`eq_of_append_closing`), so this is the only way to take it apart.
-/

namespace Rulebook

namespace Placeholder

/-! ## The parentheses of a call -/

/-- What `dropWhile` leaves begins with the first occurrence of the character. -/
theorem exists_of_dropWhile_eq_cons {c a : Char} {cs rest : List Char}
    (h : cs.dropWhile (· != c) = a :: rest) :
    cs = cs.takeWhile (· != c) ++ c :: rest ∧ c ∉ cs.takeWhile (· != c) := by
  have ha : a = c := by
    have hne : cs.dropWhile (· != c) ≠ [] := by
      rw [h]
      exact List.cons_ne_nil a rest
    simpa [h] using List.head_dropWhile_not (· != c) hne
  constructor
  · rw [← ha, ← h, ha, List.takeWhile_append_dropWhile]
  · intro hmem
    simpa using List.mem_takeWhile_imp hmem

theorem forall_bne_of_not_mem {c : Char} {cs : List Char} (h : c ∉ cs) :
    ∀ a ∈ cs, (a != c) = true := by
  intro a ha
  simpa using ne_of_mem_of_not_mem ha h

theorem dropWhile_append_cons {c : Char} {before after : List Char} (h : c ∉ before) :
    (before ++ c :: after).dropWhile (· != c) = c :: after := by
  rw [List.dropWhile_append_of_pos (forall_bne_of_not_mem h)]
  simp

theorem takeWhile_append_cons {c : Char} {before after : List Char} (h : c ∉ before) :
    (before ++ c :: after).takeWhile (· != c) = before := by
  rw [List.takeWhile_append_of_pos (forall_bne_of_not_mem h)]
  simp

/-- A text is cut before the last occurrence of a character. -/
theorem beforeLast?_eq_some {c : Char} {cs before : List Char} :
    beforeLast? c cs = some before ↔ ∃ after, c ∉ after ∧ cs = before ++ c :: after := by
  constructor
  · intro h
    unfold beforeLast? at h
    split at h
    · cases h
    · next a rest heq =>
      cases h
      obtain ⟨hcs, hafter⟩ := exists_of_dropWhile_eq_cons heq
      refine ⟨(cs.reverse.takeWhile (· != c)).reverse, by simpa using hafter, ?_⟩
      have hreverse := congrArg List.reverse hcs
      simpa using hreverse
  · rintro ⟨after, hafter, rfl⟩
    have hreverse : (before ++ c :: after).reverse = after.reverse ++ c :: before.reverse := by simp
    rw [beforeLast?, hreverse, dropWhile_append_cons (by simpa using hafter)]
    simp

theorem splitCall?_eq_some {cs name argument : List Char} :
    splitCall? cs = some (name, argument) ↔
      '(' ∉ name ∧ argument ≠ [] ∧
        ∃ dropped, ')' ∉ dropped ∧ cs = name ++ '(' :: (argument ++ ')' :: dropped) := by
  constructor
  · intro h
    unfold splitCall? at h
    split at h
    · cases h
    · next a inside heq =>
      obtain ⟨hcs, hname⟩ := exists_of_dropWhile_eq_cons heq
      split at h
      · cases h
      · cases h
      · next hne hlast =>
        cases h
        obtain ⟨dropped, hdropped, rfl⟩ := beforeLast?_eq_some.1 hlast
        exact ⟨hname, fun hnil => hne (by rw [hnil]), dropped, hdropped, hcs⟩
  · rintro ⟨hname, hne, dropped, hdropped, rfl⟩
    have hlast : beforeLast? ')' (argument ++ ')' :: dropped) = some argument :=
      beforeLast?_eq_some.2 ⟨dropped, hdropped, rfl⟩
    obtain ⟨a, rest, rfl⟩ := List.exists_cons_of_ne_nil hne
    rw [splitCall?, dropWhile_append_cons hname, takeWhile_append_cons hname]
    simp only [hlast]

/-- The content is a call in writing, of a name with an argument, and of what is dropped after
it. -/
structure IsCall (s name argument dropped : String) : Prop where
  written : s = name ++ "(" ++ argument ++ ")" ++ dropped
  name_opens_none : '(' ∉ name.toList
  argument_ne : argument ≠ ""
  dropped_closes_none : ')' ∉ dropped.toList

/-- The content is no call, and so a path. -/
def IsPath (s : String) : Prop := ∀ name argument dropped, ¬ IsCall s name argument dropped

variable {s name argument dropped kept : String} {p : Placeholder}

theorem IsCall.toList_eq (h : IsCall s name argument dropped) :
    s.toList = name.toList ++ '(' :: (argument.toList ++ ')' :: dropped.toList) := by
  rw [h.written]
  simp

theorem IsCall.splitCall? (h : IsCall s name argument dropped) :
    splitCall? s.toList = some (name.toList, argument.toList) := by
  rw [splitCall?_eq_some]
  exact ⟨h.name_opens_none, by simpa using h.argument_ne, _, h.dropped_closes_none, h.toList_eq⟩

theorem isCall_of_splitCall? {cs as : List Char} (h : splitCall? s.toList = some (cs, as)) :
    ∃ dropped, IsCall s (String.ofList cs) (String.ofList as) dropped := by
  obtain ⟨hname, hne, dropped, hdropped, hs⟩ := splitCall?_eq_some.1 h
  refine ⟨String.ofList dropped, ?_, by simpa using hname, by simpa using hne,
    by simpa using hdropped⟩
  rw [← String.toList_inj, hs]
  simp

/-- A content is read as the call that it is. -/
theorem IsCall.parse (h : IsCall s name argument dropped) :
    parse s = .call name (parse argument) := by
  rw [Placeholder.parse, parseChars]
  split
  · next hnone => cases hnone.symm.trans h.splitCall?
  · next cs as hsome =>
    cases hsome.symm.trans h.splitCall?
    rw [String.ofList_toList, Placeholder.parse]

theorem IsPath.parse (h : IsPath s) : parse s = .ref s := by
  rw [Placeholder.parse, parseChars]
  split
  · rw [String.ofList_toList]
  · next cs as hsome =>
    obtain ⟨dropped, hcall⟩ := isCall_of_splitCall? hsome
    exact absurd hcall (h _ _ _)

theorem isPath_or_isCall (s : String) : IsPath s ∨ ∃ name argument dropped,
    IsCall s name argument dropped := by
  by_cases h : ∃ name argument dropped, IsCall s name argument dropped
  · exact .inr h
  · exact .inl fun name argument dropped hcall => h ⟨name, argument, dropped, hcall⟩

/-! ## Reading -/

/-- The content reads as the placeholder, and what is kept of it is the content without the texts
dropped at each level. -/
inductive Reads : String → Placeholder → String → Prop
  | ref {s : String} (h : IsPath s) : Reads s (.ref s) s
  | call {s name argument dropped kept : String} {p : Placeholder}
      (h : IsCall s name argument dropped) (ha : Reads argument p kept) :
      Reads s (.call name p) (name ++ "(" ++ kept ++ ")")

/-- At every level that is a call, the closing parenthesis is the last character. -/
inductive Closed : String → Prop
  | ref {s : String} (h : IsPath s) : Closed s
  | call {s name argument : String} (h : IsCall s name argument "") (ha : Closed argument) :
      Closed s

theorem IsCall.length_argument_lt (h : IsCall s name argument dropped) :
    argument.length < s.length := by
  rw [h.written]
  simp only [String.length_append]
  have hparenthesis : "(".length = 1 := rfl
  omega

/-- Every content reads in some way, by induction on its length. -/
theorem exists_reads (s : String) : ∃ p kept, Reads s p kept := by
  rcases isPath_or_isCall s with h | ⟨name, argument, dropped, h⟩
  · exact ⟨.ref s, s, .ref h⟩
  · have hlt := h.length_argument_lt
    obtain ⟨p, kept, ha⟩ := exists_reads argument
    exact ⟨.call name p, name ++ "(" ++ kept ++ ")", .call h ha⟩
termination_by s.length

/-- There is one way to read a content, and what is kept of it is the placeholder in writing. -/
theorem Reads.eq (h : Reads s p kept) : p = parse s ∧ kept = p.content := by
  induction h with
  | ref h => exact ⟨h.parse.symm, rfl⟩
  | call h _ ih =>
    obtain ⟨rfl, rfl⟩ := ih
    exact ⟨h.parse.symm, rfl⟩

theorem reads_iff : Reads s p kept ↔ p = parse s ∧ kept = (parse s).content := by
  constructor
  · intro h
    obtain ⟨rfl, rfl⟩ := h.eq
    exact ⟨rfl, rfl⟩
  · rintro ⟨rfl, rfl⟩
    obtain ⟨p, kept, h⟩ := exists_reads s
    obtain ⟨rfl, rfl⟩ := h.eq
    exact h

theorem reads_parse (s : String) : Reads s (parse s) (parse s).content := reads_iff.2 ⟨rfl, rfl⟩

/-! ## Reading what was written -/

theorem call_ne_empty (name argument : String) : name ++ "(" ++ argument ++ ")" ≠ "" := by
  simp

/-- Something is kept of a content that is not empty. -/
theorem Reads.kept_ne (h : Reads s p kept) (hs : s ≠ "") : kept ≠ "" := by
  cases h with
  | ref => exact hs
  | call => exact call_ne_empty _ _

theorem isCall_call (hname : '(' ∉ name.toList) (hne : argument ≠ "") :
    IsCall (name ++ "(" ++ argument ++ ")") name argument "" where
  written := by simp
  name_opens_none := hname
  argument_ne := hne
  dropped_closes_none := by simp

/-- **What is kept reads as the same placeholder.** -/
theorem Reads.parse_kept (h : Reads s p kept) : parse kept = p := by
  induction h with
  | ref h => exact h.parse
  | call h ha ih =>
    -- What is kept of the argument is not empty, so that its parentheses make a call again.
    have hcall := isCall_call h.name_opens_none (ha.kept_ne h.argument_ne)
    rw [hcall.parse, ih]

/-- A text that ends in a closing parenthesis is cut before it and nowhere else, if no closing
parenthesis may come after the cut. -/
theorem eq_of_append_closing {x y z : String} (hz : ')' ∉ z.toList)
    (h : x ++ ")" = y ++ ")" ++ z) : x = y ∧ z = "" := by
  have hcut : x.toList ++ [')'] = y.toList ++ ')' :: z.toList := by
    have hlist := congrArg String.toList h
    simpa using hlist
  have hxy : x.toList = y.toList := by
    have hx : beforeLast? ')' (x.toList ++ [')']) = some x.toList :=
      beforeLast?_eq_some.2 ⟨[], List.not_mem_nil, rfl⟩
    have hy : beforeLast? ')' (y.toList ++ ')' :: z.toList) = some y.toList :=
      beforeLast?_eq_some.2 ⟨z.toList, hz, rfl⟩
    rw [hcut, hy] at hx
    exact (Option.some.inj hx).symm
  rw [hxy, List.append_cancel_left_eq, List.cons.injEq] at hcut
  exact ⟨String.toList_inj.1 hxy, String.toList_eq_nil_iff.1 hcut.2.symm⟩

/-- Nothing is dropped after a call that is written without anything after it. -/
theorem IsCall.eq_of_written (h : IsCall s name argument dropped)
    (hs : name ++ "(" ++ kept ++ ")" = s) : kept = argument ∧ dropped = "" := by
  rw [h.written] at hs
  simp only [String.append_assoc, String.append_right_inj] at hs
  exact eq_of_append_closing h.dropped_closes_none (hs.trans String.append_assoc.symm)

/-- A content all of which is kept has nothing after a closing parenthesis. -/
theorem Reads.closed (h : Reads s p kept) (hs : kept = s) : Closed s := by
  induction h with
  | ref h => exact .ref h
  | call h _ ih =>
    obtain ⟨hkept, rfl⟩ := h.eq_of_written hs
    exact .call h (ih hkept)

theorem Closed.content_parse (h : Closed s) : (parse s).content = s := by
  induction h with
  | ref h => rw [h.parse, content]
  | call h _ ih => rw [h.parse, content, ih, h.written, String.append_empty]

/-! ## Writing any placeholder -/

theorem content_ne_empty_iff {t : Placeholder} :
    t.content ≠ "" ↔ t.calls ≠ [] ∨ t.path ≠ "" := by
  cases t with
  | ref path => simp [content, calls, Placeholder.path]
  | call name argument => simp [content, calls]

/-- A call reads as itself if and only if its name opens no parenthesis and its argument reads as
itself and is not written as nothing. -/
theorem parse_content_call {name : String} {argument : Placeholder} :
    parse (content (.call name argument)) = .call name argument ↔
      '(' ∉ name.toList ∧ parse argument.content = argument ∧ argument.content ≠ "" := by
  constructor
  · intro h
    rcases isPath_or_isCall (content (.call name argument)) with hpath | ⟨n, a, dropped, hcall⟩
    · exact nomatch hpath.parse.symm.trans h
    · obtain ⟨rfl, ha⟩ := call.inj (hcall.parse.symm.trans h)
      obtain ⟨rfl, -⟩ := hcall.eq_of_written rfl
      exact ⟨hcall.name_opens_none, ha, hcall.argument_ne⟩
  · rintro ⟨hname, hargument, hne⟩
    have hcall := isCall_call hname hne
    exact hcall.parse.trans (congrArg (call name) hargument)

/-- **A placeholder reads as itself** if and only if its names open no parenthesis and its path
reads as a path, one that is not empty if there is a call around it. -/
theorem parse_content_iff (t : Placeholder) :
    parse t.content = t ↔
      (∀ name ∈ t.calls, '(' ∉ name.toList) ∧ parse t.path = .ref t.path ∧
        (t.calls = [] ∨ t.path ≠ "") := by
  induction t with
  | ref path => simp [content, calls, Placeholder.path]
  | call name argument ih =>
    rw [parse_content_call, ih, content_ne_empty_iff, calls, List.forall_mem_cons, Placeholder.path]
    -- The path is not empty: if the argument is a call, by what is known of the argument, and if it
    -- is the path itself, because it is not written as nothing.
    constructor
    · rintro ⟨hname, ⟨hnames, hpath, hinner⟩, hwritten⟩
      have hne : argument.path ≠ "" := by
        rcases hinner with hcalls | hne
        · exact hwritten.resolve_left fun h => h hcalls
        · exact hne
      exact ⟨⟨hname, hnames⟩, hpath, .inr hne⟩
    · rintro ⟨⟨hname, hnames⟩, hpath, houter⟩
      have hne : argument.path ≠ "" := houter.resolve_left (List.cons_ne_nil name argument.calls)
      exact ⟨hname, ⟨hnames, hpath, .inr hne⟩, .inr hne⟩

/-- **Reading and writing undo each other, up to what is dropped.** A content reads as one
placeholder, and what is kept of it, each level without what comes after its last closing
parenthesis, is that placeholder in writing. This reads as the placeholder again. It is the whole
content if and only if each level that is a call ends with its closing parenthesis. Any placeholder
at all reads as itself if and only if no name in it opens a parenthesis, its path reads as a path,
and the path is not empty inside a call. -/
theorem parse_iff_reads_and_parse_content :
    (∀ s, (∀ p kept, Reads s p kept ↔ p = parse s ∧ kept = (parse s).content) ∧
        parse (parse s).content = parse s ∧ ((parse s).content = s ↔ Closed s)) ∧
      ∀ t : Placeholder, parse t.content = t ↔
        (∀ name ∈ t.calls, '(' ∉ name.toList) ∧ parse t.path = .ref t.path ∧
          (t.calls = [] ∨ t.path ≠ "") := by
  refine ⟨fun s => ⟨fun p kept => reads_iff, ?_, ?_⟩, parse_content_iff⟩
  · exact (reads_parse s).parse_kept
  · exact ⟨(reads_parse s).closed, Closed.content_parse⟩

example : Reads "f(g(a)b)c" (.call "f" (.call "g" (.ref "a"))) "f(g(a))" := by
  rw [reads_iff]
  cbv

end Placeholder
end Rulebook
