import Rulebook.Proofs.Template.Concatenation
import Rulebook.Proofs.Template.Content
import Rulebook.Proofs.Template.Resolution

/-!
# Calls of `string` in a template

A template puts in of each value the text that `string` makes of it, but for `null`: nothing is put
in for it, while `string` makes the text `null` of it.

**Theorem (`fill_stringCall_iff`).** When the content of a placeholder is made the argument of a
call of `string`, the template is split as before, with the call in the place of the placeholder. It
is filled in with the same text if and only if the value of the placeholder is not `null`.

The content stays one content because a closing tag of braces has no parenthesis, so that it does
not begin in what is added, and the call is one because its first and its last parenthesis are those
that were added, whatever parentheses stand between them.
-/

namespace Rulebook

variable {d : Delimiters} {before after : List Segment}

/-! ## Another placeholder between the same segments -/

/-- A call is first closed where its argument would be, if the tag has no parenthesis. -/
theorem firstAt_call {tag name argument : List Char} (hopen : '(' ∉ tag) (hclose : ')' ∉ tag)
    (hne : tag ≠ []) (hname : ¬ tag <:+: name) (h : FirstAt tag argument) :
    FirstAt tag (name ++ '(' :: argument ++ [')']) := by
  refine firstAt_concat hclose fun hinfix => ?_
  rcases (infix_append_cons_iff hopen).1 hinfix with hinfix | hinfix
  · exact hname hinfix
  · exact h.not_infix hne hinfix

/-- A placeholder is closed where its content ends, and any other content that is may stand in its
place. -/
theorem Segmented.between {last : String → Prop} {content : String} {p : Placeholder}
    (h : Segmented d last (before ++ .placeholder content p :: after)) :
    p = .parse content ∧ FirstAt d.closing.toList content.toList ∧
      ∀ content', FirstAt d.closing.toList content'.toList →
        Segmented d last (before ++ .ofContent content' :: after) := by
  induction before with
  | nil =>
    cases h with
    | placeholder hcontent hafter => exact ⟨rfl, hcontent, fun _ h => .placeholder h hafter⟩
  | cons s before ih =>
    -- After a text a placeholder comes, be it this one or one before it.
    cases before with
    | nil =>
      cases h with
      | text hne hx hS =>
        obtain ⟨hp, hcontent, hother⟩ := ih hS
        exact ⟨hp, hcontent, fun content' h => .text hne hx (hother content' h)⟩
      | placeholder hc hS =>
        obtain ⟨hp, hcontent, hother⟩ := ih hS
        exact ⟨hp, hcontent, fun content' h => .placeholder hc (hother content' h)⟩
    | cons s' before =>
      cases h with
      | text hne hx hS =>
        obtain ⟨hp, hcontent, hother⟩ := ih hS
        exact ⟨hp, hcontent, fun content' h => .text hne hx (hother content' h)⟩
      | placeholder hc hS =>
        obtain ⟨hp, hcontent, hother⟩ := ih hS
        exact ⟨hp, hcontent, fun content' h => .placeholder hc (hother content' h)⟩

theorem renderAll_between (d : Delimiters) (before after : List Segment) (content : String)
    (p : Placeholder) :
    renderAll d (before ++ .placeholder content p :: after) =
      renderAll d before ++ d.wrap content ++ renderAll d after := by
  rw [renderAll_append, renderAll_cons, Segment.render, String.append_assoc]

theorem value_fillSegments_between {ctx : Context} (content : String) (p : Placeholder) :
    (fillSegments ctx (before ++ .placeholder content p :: after)).value =
      (fillSegments ctx before).value ++
        (Value.inserted (p.resolve ctx).value ++ (fillSegments ctx after).value) := by
  rw [fillSegments_append]
  rfl

/-! ## The text of a value -/

/-- **`string` makes of a value the text that is put in for it**, unless the value is `null`. -/
theorem inserted_string_iff {v : Option Value} :
    Value.inserted (Conversion.string v) = Value.inserted v ↔ v ≠ some .null := by
  cases v with
  | none => simp [Conversion.string]
  | some v =>
    cases v with
    | null => exact iff_of_false (by decide) (fun h => h rfl)
    | bool | num | str | arr | obj => exact iff_of_true rfl (by simp)

/-! ## Templates -/

/-- The content of a call of `string`. -/
def stringCall (content : String) : String := "string(" ++ content ++ ")"

theorem parse_stringCall {content : String} (hne : content ≠ "") :
    Placeholder.parse (stringCall content) = .call "string" (.parse content) := by
  have hname : '(' ∉ "string".toList := by decide
  exact (Placeholder.isCall_call hname hne).parse

theorem firstAt_stringCall {content : String}
    (h : FirstAt Delimiters.braces.closing.toList content.toList) :
    FirstAt Delimiters.braces.closing.toList (stringCall content).toList := by
  have hcall : FirstAt Delimiters.braces.closing.toList
      ("string".toList ++ '(' :: content.toList ++ [')']) :=
    firstAt_call (by decide) (by decide) (by decide) (by decide) h
  simpa [stringCall] using hcall

/-- **A call of `string` around a placeholder changes the text for `null` only.** The template with
the call is split into the same segments but for the placeholder, whose content is now the call. As
long as no other conversion is registered under this name, what is filled in is the same if and only
if the placeholder does not come to `null`: this is put in as the text `null` by the call, and as
nothing without it. -/
theorem fill_stringCall_iff (lookup : String → Option Value) (judge : Judge)
    {registrations : List (String × Conversion)} (hkept : ∀ c ∈ registrations, c.1 ≠ "string")
    {t content : String} {p : Placeholder}
    (hS : (Template.split .braces t).value = some (before ++ .placeholder content p :: after))
    (hne : content ≠ "") :
    let ctx : Context := ⟨lookup, judge, (Registry.builtin.registerAll registrations).convert⟩
    let around (content : String) : String :=
      renderAll .braces before ++ Delimiters.braces.wrap content ++ renderAll .braces after
    t = around content ∧
      (Template.split .braces (around (stringCall content))).value =
        some (before ++ .ofContent (stringCall content) :: after) ∧
      ((Template.fill .braces ctx (around (stringCall content))).value =
          (Template.fill .braces ctx t).value ↔ (p.resolve ctx).value ≠ some .null) := by
  intro ctx around
  have hstring : (Registry.builtin.registerAll registrations).find? "string" =
      some Conversion.string :=
    (Registry.find?_registerAll_of_ne hkept).trans rfl
  rw [Template.value_split] at hS
  obtain ⟨hcanonical, hrender⟩ := Template.canonical_of_segments? hS
  obtain ⟨rfl, hclosed, hother⟩ := hcanonical.between
  have hcall : Template.segments? .braces (around (stringCall content)) =
      some (before ++ .ofContent (stringCall content) :: after) := by
    have hsplit := Template.segments?_renderAll (hother _ (firstAt_stringCall hclosed))
    rwa [Segment.ofContent, renderAll_between] at hsplit
  refine ⟨?_, by rw [Template.value_split, hcall], ?_⟩
  · rw [← hrender, renderAll_between]
  · have hvalue : ((Placeholder.parse (stringCall content)).resolve ctx).value =
        Conversion.string ((Placeholder.parse content).resolve ctx).value := by
      rw [parse_stringCall hne, Placeholder.value_resolve_call, Registry.meaning, hstring]
      rfl
    rw [Template.fill_of_segments?_eq_some hcall, Template.fill_of_segments?_eq_some hS,
      Segment.ofContent, value_fillSegments_between, value_fillSegments_between, hvalue,
      String.append_right_inj, String.append_left_inj]
    exact inserted_string_iff

/-- The content has a call in it already, and something after its last parenthesis. -/
theorem fill_stringCall_iff_nested :
    let ctx : Context := ⟨fun _ => some (.bool true),
      ⟨fun _ _ _ => pure .success, fun _ _ => pure .success⟩,
      (Registry.builtin.registerAll [("upper", fun _ => none)]).convert⟩
    (Template.split .braces "n=\x7b\x7bint(a)b\x7d\x7d").value =
        some ([.text "n="] ++ .placeholder "int(a)b" (.call "int" (.ref "a")) :: []) ∧
      (Template.fill .braces ctx "n=\x7b\x7bint(a)b\x7d\x7d").value = "n=1" ∧
      (Template.fill .braces ctx "n=\x7b\x7bstring(int(a)b)\x7d\x7d").value = "n=1" := by
  intro ctx
  have hsplit : (Template.split .braces "n=\x7b\x7bint(a)b\x7d\x7d").value =
      some ([.text "n="] ++ .placeholder "int(a)b" (.call "int" (.ref "a")) :: []) := by cbv
  have hnull : ((Placeholder.call "int" (.ref "a")).resolve ctx).value ≠ some .null := by
    have hvalue : ((Placeholder.call "int" (.ref "a")).resolve ctx).value =
        some (.num (.whole 1 (by decide))) := rfl
    rw [hvalue]
    simp
  have hfill : (Template.fill .braces ctx "n=\x7b\x7bint(a)b\x7d\x7d").value = "n=1" := by
    rw [Template.fill_of_segments?_eq_some ((Template.value_split _ _).symm.trans hsplit)]
    rfl
  obtain ⟨-, -, hsame⟩ := fill_stringCall_iff (fun _ => some (.bool true))
    ⟨fun _ _ _ => pure .success, fun _ _ => pure .success⟩
    (show ∀ c ∈ ([("upper", fun _ => none)] : List (String × Conversion)), c.1 ≠ "string" by simp)
    hsplit (by decide)
  exact ⟨hsplit, hfill, (hsame.2 hnull).trans hfill⟩

/-- `null` is put in as nothing, and as the text `null` from within a call of `string`. -/
theorem not_fill_stringCall_null :
    let ctx : Context := ⟨fun _ => some .null,
      ⟨fun _ _ _ => pure .success, fun _ _ => pure .success⟩, Registry.builtin.convert⟩
    (Template.split .braces "\x7b\x7ba\x7d\x7d").value = some [.placeholder "a" (.ref "a")] ∧
      (Template.fill .braces ctx "\x7b\x7ba\x7d\x7d").value = "" ∧
      (Template.split .braces "\x7b\x7bstring(a)\x7d\x7d").value =
        some [.placeholder "string(a)" (.call "string" (.ref "a"))] ∧
      (Template.fill .braces ctx "\x7b\x7bstring(a)\x7d\x7d").value = "null" := by
  intro ctx
  have hsplit : (Template.split .braces "\x7b\x7ba\x7d\x7d").value =
      some [.placeholder "a" (.ref "a")] := by cbv
  have hcall : (Template.split .braces "\x7b\x7bstring(a)\x7d\x7d").value =
      some [.placeholder "string(a)" (.call "string" (.ref "a"))] := by cbv
  refine ⟨hsplit, ?_, hcall, ?_⟩
  · rw [Template.fill_of_segments?_eq_some ((Template.value_split _ _).symm.trans hsplit)]
    rfl
  · rw [Template.fill_of_segments?_eq_some ((Template.value_split _ _).symm.trans hcall)]
    rfl

end Rulebook
