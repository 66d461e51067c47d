import Rulebook.Proofs.Json.Lexing
import Rulebook.Proofs.Json.Values

/-!
# Texts in brackets

**Theorem (`ofText_brackets`).** A text that says a value, put in brackets, says the list of that
value, if there is room for one more container.

What a lexeme does is said once (`Moves`): the text breaks there, or a tree ends there, or something
else is expected, and the containers around make no difference to which of the three it is. So a run
that comes to the end of a tree comes to the end of the same tree inside of other containers, and
hands it to them (`foldl_under`). Every text that says a value is such a run: where reading stops,
the tree has a break (`StopsAtBreak`), and a tree with a break says no value.
-/

namespace Rulebook

namespace Json.Reading

/-! ## What a lexeme does -/

/-- What a lexeme does where something may come next, whatever containers are around: the text
breaks there, or a tree ends there, or something else is expected, maybe in more containers. -/
inductive Moves (next : Expected) (l : Lexeme) : Prop
  | stops (t : Tree) (ht : t.firstBreak.isSome)
      (h : ∀ outer, step (.inside next outer) l = .stopped (enclose t outer))
  | delivers (t : Tree) (hl : l.isBroken = false)
      (h : ∀ outer, step (.inside next outer) l = deliver t outer)
  | goes (next' : Expected) (entered : List Waiting) (hl : l.isBroken = false)
      (h : ∀ outer, step (.inside next outer) l = .inside next' (entered ++ outer))

theorem moves_value (l : Lexeme) : Moves .value l := by
  cases l with
  | openArray => exact .goes .elementOrEnd [] rfl fun _ => rfl
  | openObject => exact .goes .keyOrEnd [] rfl fun _ => rfl
  | closeArray | closeObject | comma | colon => exact .stops (.broken .malformed) rfl fun _ => rfl
  | null => exact .delivers .null rfl fun _ => rfl
  | bool b => exact .delivers (.bool b) rfl fun _ => rfl
  | number n => exact .delivers (.number n) rfl fun _ => rfl
  | string s =>
    have hstep (outer : List Waiting) : step (.inside .value outer) (.string s) =
        if s.broken.isSome then .stopped (enclose (.string s) outer)
        else deliver (.string s) outer := rfl
    by_cases hs : s.broken.isSome
    · exact .stops (.string s) hs fun outer => by rw [hstep, if_pos hs]
    · exact .delivers (.string s) (Bool.eq_false_iff.2 hs) fun outer => by rw [hstep, if_neg hs]
  | brokenNumber b => exact .stops (.brokenNumber b) rfl fun _ => rfl
  | brokenWord b => exact .stops (.brokenWord b) rfl fun _ => rfl
  | broken b => exact .stops (.broken b) rfl fun _ => rfl

theorem step_elementOrEnd {l : Lexeme} (hl : l ≠ .closeArray) (outer : List Waiting) :
    step (.inside .elementOrEnd outer) l = step (.inside .value (.element [] :: outer)) l := by
  cases l <;> first | rfl | exact absurd rfl hl

theorem moves_elementOrEnd (l : Lexeme) : Moves .elementOrEnd l := by
  by_cases hl : l = .closeArray
  · subst hl
    exact .delivers (.array [] none) rfl fun _ => rfl
  · have hstep := step_elementOrEnd hl
    cases moves_value l with
    | stops t ht h =>
      exact .stops (.array [t] (some .ends)) (Tree.isSome_firstBreak_array [t] .ends)
        fun outer => (hstep outer).trans (h _)
    | delivers t hl h =>
      exact .goes (.commaInArray [t]) [] hl fun outer => (hstep outer).trans (h _)
    | goes next' entered hl h =>
      exact .goes next' (entered ++ [.element []]) hl fun outer => by
        rw [hstep, h, List.append_assoc, List.singleton_append]

theorem moves_commaInArray (before : List Tree) (l : Lexeme) : Moves (.commaInArray before) l := by
  by_cases hcomma : l = .comma
  · subst hcomma
    exact .goes .value [.element before] rfl fun _ => rfl
  · by_cases hclose : l = .closeArray
    · subst hclose
      exact .delivers (.array before.reverse none) rfl fun _ => rfl
    · exact .stops (.array before.reverse (some .malformed))
        (Tree.isSome_firstBreak_array before.reverse .malformed) fun outer => by
          cases l <;> first | rfl | exact absurd rfl hcomma | exact absurd rfl hclose

theorem moves_key (before : List (StringText × Tree)) (l : Lexeme) : Moves (.key before) l := by
  by_cases hl : ∃ s, l = .string s
  · obtain ⟨s, rfl⟩ := hl
    have hstep (outer : List Waiting) : step (.inside (.key before) outer) (.string s) =
        if s.broken.isSome then
          .stopped (enclose (.object (before.reverse ++ [(s, .null)]) (.broken .ends)) outer)
        else .inside (.colon before s) outer := rfl
    by_cases hs : s.broken.isSome
    · exact .stops _ (Tree.isSome_firstBreak_object _ rfl) fun outer => by
        rw [hstep, if_pos hs]
    · exact .goes (.colon before s) [] (Bool.eq_false_iff.2 hs) fun outer => by
        rw [hstep, if_neg hs]
        rfl
  · exact .stops (.object before.reverse (.wrongKey l))
      (Tree.isSome_firstBreak_object _ rfl) fun outer => by
        cases l <;> first | rfl | exact absurd ⟨_, rfl⟩ hl

theorem moves_keyOrEnd (l : Lexeme) : Moves .keyOrEnd l := by
  by_cases hl : l = .closeObject
  · subst hl
    exact .delivers (.object [] .closed) rfl fun _ => rfl
  · have hstep (outer : List Waiting) :
        step (.inside .keyOrEnd outer) l = step (.inside (.key []) outer) l := by
      cases l <;> first | rfl | exact absurd rfl hl
    cases moves_key [] l with
    | stops t ht h => exact .stops t ht fun outer => (hstep outer).trans (h outer)
    | delivers t hl h => exact .delivers t hl fun outer => (hstep outer).trans (h outer)
    | goes next' entered hl h =>
      exact .goes next' entered hl fun outer => (hstep outer).trans (h outer)

theorem moves_colon (before : List (StringText × Tree)) (key : StringText) (l : Lexeme) :
    Moves (.colon before key) l := by
  by_cases hl : l = .colon
  · subst hl
    exact .goes .value [.member before key] rfl fun _ => rfl
  · exact .stops (.object (before.reverse ++ [(key, .broken .malformed)]) (.broken .ends))
      (Tree.isSome_firstBreak_object _ rfl) fun outer => by
        cases l <;> first | rfl | exact absurd rfl hl

theorem moves_commaInObject (before : List (StringText × Tree)) (l : Lexeme) :
    Moves (.commaInObject before) l := by
  by_cases hcomma : l = .comma
  · subst hcomma
    exact .goes (.key before) [] rfl fun _ => rfl
  · by_cases hclose : l = .closeObject
    · subst hclose
      exact .delivers (.object before.reverse .closed) rfl fun _ => rfl
    · exact .stops (.object before.reverse (.broken .malformed))
        (Tree.isSome_firstBreak_object _ rfl) fun outer => by
          cases l <;> first | rfl | exact absurd rfl hcomma | exact absurd rfl hclose

/-- **A lexeme does the same in all containers.** -/
theorem moves (next : Expected) (l : Lexeme) : Moves next l := by
  cases next with
  | value => exact moves_value l
  | elementOrEnd => exact moves_elementOrEnd l
  | commaInArray before => exact moves_commaInArray before l
  | keyOrEnd => exact moves_keyOrEnd l
  | key before => exact moves_key before l
  | colon before key => exact moves_colon before key l
  | commaInObject before => exact moves_commaInObject before l

/-! ## Containers around a text -/

/-- The same place of a text with more containers around it. -/
def under (frame : List Waiting) : Reading → Reading
  | .inside next outer => .inside next (outer ++ frame)
  | .done t _ => deliver t frame
  | .stopped t => .stopped (enclose t frame)

theorem under_deliver (frame outer : List Waiting) (t : Tree) :
    (deliver t outer).under frame = deliver t (outer ++ frame) := by
  cases outer with
  | nil => rfl
  | cons w outer => cases w <;> rfl

theorem enclose_append (frame outer : List Waiting) (t : Tree) :
    enclose t (outer ++ frame) = enclose (enclose t outer) frame := by
  induction outer generalizing t with
  | nil => rfl
  | cons w outer ih => cases w <;> exact ih _

theorem step_append (frame outer : List Waiting) (next : Expected) (l : Lexeme) :
    step (.inside next (outer ++ frame)) l = (step (.inside next outer) l).under frame := by
  cases moves next l with
  | stops t _ h => rw [h, h, enclose_append, under]
  | delivers t _ h => rw [h, h, under_deliver]
  | goes next' entered _ h => rw [h, h, under, List.append_assoc]

/-! ## Runs that come to the end of a tree -/

/-- Nothing that follows makes this the end of a tree: the text broke, or goes on after a tree. -/
inductive Failed : Reading → Prop
  | stopped (t : Tree) : Failed (.stopped t)
  | leftOver (t : Tree) : Failed (.done t true)

theorem Failed.foldl {r : Reading} (h : r.Failed) (ls : List Lexeme) :
    (ls.foldl step r).Failed := by
  induction ls generalizing r with
  | nil => exact h
  | cons l ls ih =>
    cases h with
    | stopped t => exact ih (.stopped t)
    | leftOver t => exact ih (.leftOver t)

theorem Failed.ne_done {r : Reading} (h : r.Failed) (t : Tree) : r ≠ .done t false := by
  rintro rfl
  cases h

/-- A run that is not failed at its end was inside of a tree before. -/
theorem exists_inside_of_foldl {r : Reading} {l : Lexeme} {ls : List Lexeme} {t : Tree}
    (h : (l :: ls).foldl step r = .done t false) :
    ∃ next outer, r = .inside next outer ∧
      ls.foldl step (step (.inside next outer) l) = .done t false := by
  cases r with
  | inside next outer => exact ⟨next, outer, rfl, h⟩
  | done t' leftOver => exact absurd h ((Failed.leftOver t').foldl ls |>.ne_done t)
  | stopped t' => exact absurd h ((Failed.stopped t').foldl ls |>.ne_done t)

/-- **A text in containers** is read as it is alone, and its tree is handed to them. -/
theorem foldl_under (frame : List Waiting) {r : Reading} {ls : List Lexeme} {t : Tree}
    (h : ls.foldl step r = .done t false) : ls.foldl step (r.under frame) = deliver t frame := by
  induction ls generalizing r with
  | nil =>
    obtain rfl : r = .done t false := h
    rfl
  | cons l ls ih =>
    obtain ⟨next, outer, rfl, h⟩ := exists_inside_of_foldl h
    rw [List.foldl_cons, under, step_append]
    exact ih h

/-- A text that says a value has only whole lexemes. -/
theorem isBroken_eq_false_of_foldl {r : Reading} {ls : List Lexeme} {t : Tree}
    (h : ls.foldl step r = .done t false) : ∀ l ∈ ls, l.isBroken = false := by
  induction ls generalizing r with
  | nil => simp
  | cons l ls ih =>
    obtain ⟨next, outer, rfl, hls⟩ := exists_inside_of_foldl h
    refine List.forall_mem_cons.2 ⟨?_, ih hls⟩
    cases moves next l with
    | stops _ _ hstep =>
      rw [hstep] at hls
      exact absurd hls ((Failed.stopped _).foldl ls |>.ne_done t)
    | delivers _ hl => exact hl
    | goes _ _ hl => exact hl

/-! ## Texts that break -/

theorem isSome_firstBreak_enclose (outer : List Waiting) {t : Tree} (h : t.firstBreak.isSome) :
    (enclose t outer).firstBreak.isSome := by
  induction outer generalizing t with
  | nil => exact h
  | cons w outer ih =>
    cases w with
    | element before => exact ih (Tree.isSome_firstBreak_array _ .ends)
    | member before key => exact ih (Tree.isSome_firstBreak_object _ rfl)

/-- Reading has not stopped, or it has stopped at a break of its tree. -/
def StopsAtBreak (r : Reading) : Prop := ∀ t, r = .stopped t → t.firstBreak.isSome

theorem StopsAtBreak.step {r : Reading} (h : r.StopsAtBreak) (l : Lexeme) :
    (r.step l).StopsAtBreak := by
  cases r with
  | inside next outer =>
    intro t ht
    cases moves next l with
    | stops t' hbreak hstep =>
      rw [hstep] at ht
      cases ht
      exact isSome_firstBreak_enclose outer hbreak
    | delivers t' _ hstep =>
      rw [hstep] at ht
      cases outer with
      | nil => cases ht
      | cons w outer => cases w <;> cases ht
    | goes next' entered _ hstep =>
      rw [hstep] at ht
      cases ht
  | done t' leftOver => exact nofun
  | stopped t' => exact h

theorem StopsAtBreak.foldl {r : Reading} (h : r.StopsAtBreak) (ls : List Lexeme) :
    (ls.foldl Reading.step r).StopsAtBreak := by
  induction ls generalizing r with
  | nil => exact h
  | cons l ls ih => exact ih (h.step l)

/-- A tree without a break is one that the text ends. -/
theorem exists_done_of_firstBreak_eq_none {r : Reading} (h : r.StopsAtBreak)
    (hfinish : r.finish.1.firstBreak = none) :
    ∃ t leftOver, r = .done t leftOver := by
  have hbreak (outer : List Waiting) {t : Tree} (ht : t.firstBreak.isSome) :
      (enclose t outer).firstBreak ≠ none :=
    Option.isSome_iff_ne_none.1 (isSome_firstBreak_enclose outer ht)
  cases r with
  | inside next outer =>
    refine absurd hfinish ?_
    cases next with
    | value => exact hbreak outer rfl
    | elementOrEnd | commaInArray => exact hbreak outer (Tree.isSome_firstBreak_array _ .ends)
    | keyOrEnd | key | commaInObject => exact hbreak outer (Tree.isSome_firstBreak_object _ rfl)
    | colon before key => exact hbreak (.member before key :: outer) rfl
  | done t leftOver => exact ⟨t, leftOver, rfl⟩
  | stopped t => exact absurd hfinish (Option.isSome_iff_ne_none.1 (h t rfl))

/-- A text in an array is its first element. -/
theorem foldl_elementOrEnd {ls : List Lexeme} {t : Tree}
    (h : ls.foldl step (.inside .value []) = .done t false) (outer : List Waiting) :
    ls.foldl step (.inside .elementOrEnd outer) = .inside (.commaInArray [t]) outer := by
  have hunder : ls.foldl step (.inside .value (.element [] :: outer)) =
      .inside (.commaInArray [t]) outer := foldl_under (.element [] :: outer) h
  cases ls with
  | nil => cases h
  | cons l ls =>
    have hl : l ≠ .closeArray := by
      rintro rfl
      exact absurd h ((Failed.stopped _).foldl ls |>.ne_done t)
    rw [List.foldl_cons, step_elementOrEnd hl]
    exact hunder

end Json.Reading

open Json Json.Reading

/-- **A text that says a value** comes to the end of a tree that says it, and nothing follows. -/
theorem Value.ofText_eq_ok {text : String} {v : Value} (h : Value.ofText text = .ok v) :
    ∃ t, (lex text.toList).foldl step (.inside .value []) = .done t false ∧
      t.toValue 0 = .ok v := by
  obtain ⟨r, hr⟩ : ∃ r, (lex text.toList).foldl step (.inside .value []) = r := ⟨_, rfl⟩
  have hstart : StopsAtBreak (.inside .value []) := fun t ht => nomatch ht
  have hstops : r.StopsAtBreak := hr ▸ hstart.foldl (lex text.toList)
  simp only [ofText, Document.ofText, Document.ofLexemes, hr, bind_eq_ok] at h
  obtain ⟨v', hv, h⟩ := h
  obtain ⟨t, leftOver, rfl⟩ :=
    exists_done_of_firstBreak_eq_none hstops (Tree.firstBreak_of_toValue hv)
  cases leftOver with
  | true => cases h
  | false =>
    cases h
    exact ⟨t, hr, hv⟩

namespace Json

/-- The tree of a text in brackets. -/
theorem document_brackets {text : String} {v : Value} (h : Value.ofText text = .ok v) :
    ∃ t, Document.ofText text = ⟨t, false⟩ ∧ t.toValue 0 = .ok v ∧
      Document.ofText ("[" ++ text ++ "]") = ⟨.array [t] none, false⟩ := by
  obtain ⟨t, ht, hv⟩ := Value.ofText_eq_ok h
  have hlex : lex ("[" ++ text ++ "]").toList = .openArray :: lex text.toList ++ [.closeArray] := by
    have hchars : ("[" ++ text ++ "]").toList = '[' :: text.toList ++ [']'] := by simp
    rw [hchars, lex_brackets (isBroken_eq_false_of_foldl ht)]
  have hinside : (.openArray :: lex text.toList).foldl step (.inside .value []) =
      .inside (.commaInArray [t]) [] := foldl_elementOrEnd ht []
  refine ⟨t, by rw [Document.ofText, Document.ofLexemes, ht]; rfl, hv, ?_⟩
  rw [Document.ofText, Document.ofLexemes, hlex, List.foldl_append, hinside]
  rfl

end Json

/-- **A text in brackets is a list of one value**, if containers are not nested too deep for it. -/
theorem Value.ofText_brackets {text : String} {v : Value} (h : Value.ofText text = .ok v)
    (hroom : (Document.ofText text).tree.nesting < depthLimit) :
    Value.ofText ("[" ++ text ++ "]") = .ok (.arr [v]) := by
  obtain ⟨t, ht, hv, hbrackets⟩ := document_brackets h
  rw [ht] at hroom
  have hv' : t.toValue 1 = .ok v :=
    Tree.toValue_of_nesting hv (Nat.add_comm 1 t.nesting ▸ Nat.succ_le_of_lt hroom)
  have hlist : (Tree.array [t] none).toValue 0 = .ok (.arr [v]) :=
    Tree.toValue_array.2 ⟨by decide, rfl, [v], Tree.toValues_cons.2 ⟨v, [], hv', rfl, rfl⟩, rfl⟩
  simp only [ofText, hbrackets, hlist]
  rfl

end Rulebook
