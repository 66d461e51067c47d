import Rulebook.Proofs.Conversion.SameNumber
import Rulebook.Proofs.Number.PlusSign
import Rulebook.Proofs.Template.Filling
import Rulebook.Proofs.Template.Resolution
import Rulebook.Proofs.Text.Percent

/-!
# What `urlenc` puts into a template

`urlenc` encodes strings. Any other value it lets pass, to be put in as its JSON text, which is not
encoded.

**Theorem (`urlenc_inserts_urlSafe`).** What is put in for a call of `urlenc` is URL-safe if and
only if the value that is passed to it is no list, no object and no binary64 number of `10 ^ 16` or
more. What is put in for a string stands for the UTF-8 form of this string.

The text of a list or object begins with a bracket, and that of a great number has a plus sign
(`Binary64.plus_mem_text_iff`). All other characters that numbers are written with are unreserved.
With `string` between, no value is left that would not fit (`urlSafe_urlenc_string`).
-/

namespace Rulebook

open Text (UrlSafe UrlWrites isUnreserved isNumeral)

/-! ## The texts of values -/

theorem Text.isUnreserved_of_isNumeral {c : Char} (h : isNumeral c = true) (hplus : c ≠ '+') :
    isUnreserved c = true := by
  simp only [isNumeral, Bool.or_eq_true, beq_iff_eq] at h
  rcases h with ((((hdigit | hc) | rfl) | rfl) | rfl) | rfl
  · simp [isUnreserved, Char.isAlphanum, hdigit]
  · exact absurd hc hplus
  all_goals decide

/-- Of the characters of a number only the plus sign is not URL-safe. -/
theorem Number.urlSafe_text_iff (n : Number) : UrlSafe n.text ↔ '+' ∉ n.text := by
  constructor
  · intro h hplus
    exact Text.not_urlSafe_of_mem hplus (by decide) (by decide) h
  · intro hplus
    refine Text.urlSafe_of_isUnreserved fun c hc => ?_
    refine Text.isUnreserved_of_isNumeral (n.isNumeral_text c hc) ?_
    rintro rfl
    exact hplus hc

theorem plus_notMem_wholeText (i : Int) : '+' ∉ wholeText i := by
  have hdigits := Decimal.plus_notMem_of_isDigit (writesDigits_toDigits i.natAbs).isDigit
  unfold wholeText
  split <;> simp [hdigits]

/-- The values that `urlenc` encodes, and those whose text is URL-safe as it is. -/
inductive FitsUrl : Option Value → Prop
  | nothing : FitsUrl none
  | null : FitsUrl (some .null)
  | bool (b : Bool) : FitsUrl (some (.bool b))
  | whole (i : Int) (range : -(2 ^ 63) ≤ i ∧ i < 2 ^ 64) : FitsUrl (some (.num (.whole i range)))
  | real {x : Binary64} (h : x.magnitude < 10 ^ 16) : FitsUrl (some (.num (.real x)))
  | str (s : String) : FitsUrl (some (.str s))

theorem toList_inserted_urlenc_num (n : Number) :
    (Value.inserted (Conversion.urlenc (some (.num n)))).toList = n.text := by
  simp [Conversion.urlenc, Value.inserted, Value.text, Value.chars]

/-- What is put in for a string stands for its UTF-8 form. -/
theorem urlWrites_inserted_urlenc {s : String} {bytes : List UInt8} :
    UrlWrites (Value.inserted (Conversion.urlenc (some (.str s)))).toList bytes ↔
      bytes = s.toUTF8.data.toList := by
  rw [Conversion.urlenc, Value.inserted, String.toList_ofList]
  exact Text.urlWrites_percentEncode_iff

/-- **The values that are put in as a URL-safe text.** -/
theorem urlSafe_inserted_urlenc_iff {v : Option Value} :
    UrlSafe (Value.inserted (Conversion.urlenc v)).toList ↔ FitsUrl v := by
  cases v with
  | none => exact iff_of_true ⟨[], .nil⟩ .nothing
  | some v =>
    cases v with
    | null => exact iff_of_true ⟨[], .nil⟩ .null
    | bool b =>
      refine iff_of_true (Text.urlSafe_of_isUnreserved ?_) (.bool b)
      cases b <;> exact List.all_eq_true.1 (by decide)
    | num n =>
      rw [toList_inserted_urlenc_num, Number.urlSafe_text_iff]
      cases n with
      | whole i range => exact iff_of_true (plus_notMem_wholeText i) (.whole i range)
      | real x =>
        rw [Number.text, x.plus_mem_text_iff, not_le]
        constructor
        · exact .real
        · intro h
          cases h
          assumption
    | str s => exact iff_of_true ⟨_, urlWrites_inserted_urlenc.2 rfl⟩ (.str s)
    | arr elements =>
      have hmem : '[' ∈ (Value.inserted (Conversion.urlenc (some (.arr elements)))).toList := by
        simp [Conversion.urlenc, Value.inserted, Value.text, Value.chars]
      refine iff_of_false (Text.not_urlSafe_of_mem hmem (by decide) (by decide)) fun h => ?_
      cases h
    | obj members =>
      have hmem : '\x7b' ∈ (Value.inserted (Conversion.urlenc (some (.obj members)))).toList := by
        simp [Conversion.urlenc, Value.inserted, Value.text, Value.chars]
      refine iff_of_false (Text.not_urlSafe_of_mem hmem (by decide) (by decide)) fun h => ?_
      cases h

/-- Whatever `string` gives, `urlenc` makes URL-safe. -/
theorem fitsUrl_string (v : Option Value) : FitsUrl (Conversion.string v) := by
  cases v with
  | none => exact .nothing
  | some v => cases v <;> exact .str _

/-! ## Placeholders and templates -/

/-- The texts that a placeholder makes way for are what its value puts in. -/
theorem Segment.FilledBy.eq_inserted {ctx : Context} {content text : String} {p : Placeholder}
    (h : (Segment.placeholder content p).FilledBy ctx text) :
    text = Value.inserted (p.resolve ctx).value := by
  cases h with
  | nothing h => rcases h with h | h <;> rw [h] <;> rfl
  | string h =>
    rw [h]
    rfl
  | @json _ _ v h hnull hstr =>
    rw [h]
    cases v with
    | null => exact absurd rfl hnull
    | str x => exact absurd rfl (hstr x)
    | bool | num | arr | obj => rfl

variable {lookup : String → Option Value} {judge : Judge}

theorem Placeholder.value_resolve_urlenc {r : Registry}
    (hr : r.find? "urlenc" = some Conversion.urlenc) (p : Placeholder) :
    ((call "urlenc" p).resolve ⟨lookup, judge, r.convert⟩).value =
      Conversion.urlenc (p.resolve ⟨lookup, judge, r.convert⟩).value := by
  rw [value_resolve_call, Registry.meaning, hr, Option.getD_some]

/-- Any value is put in as a URL-safe text if it is made a string first. -/
theorem urlSafe_urlenc_string {r : Registry} (hr : r.find? "urlenc" = some Conversion.urlenc)
    (hstring : r.find? "string" = some Conversion.string) (p : Placeholder) :
    UrlSafe (Value.inserted ((Placeholder.call "urlenc" (.call "string" p)).resolve
      ⟨lookup, judge, r.convert⟩).value).toList := by
  rw [Placeholder.value_resolve_urlenc hr, urlSafe_inserted_urlenc_iff,
    Placeholder.value_resolve_call, Registry.meaning, hstring]
  exact fitsUrl_string _

/-- **What `urlenc` puts in is URL-safe, but for lists, objects and great numbers.** As long as no
other conversion is registered under this name, each text that a call of `urlenc` makes way for is
URL-safe if and only if the value passed to it is no list, no object and no binary64 number of
`10 ^ 16` or more. If this value is a string, the text stands for its UTF-8 form and for no other
bytes. -/
theorem urlenc_inserts_urlSafe (lookup : String → Option Value) (judge : Judge)
    {registrations : List (String × Conversion)} (hkept : ∀ c ∈ registrations, c.1 ≠ "urlenc")
    {d : Delimiters} {t : String} {S : List Segment} (hS : (Template.split d t).value = some S) :
    let ctx : Context := ⟨lookup, judge, (Registry.builtin.registerAll registrations).convert⟩
    ∃ texts, (Template.fill d ctx t).value = String.join texts ∧
      List.Forall₂ (fun segment text => segment.FilledBy ctx text ∧
        ∀ content argument, segment = .placeholder content (.call "urlenc" argument) →
          (UrlSafe text.toList ↔ FitsUrl (argument.resolve ctx).value) ∧
          ∀ s, (argument.resolve ctx).value = some (.str s) →
            ∀ bytes, UrlWrites text.toList bytes ↔ bytes = s.toUTF8.data.toList) S texts := by
  intro ctx
  have hr : (Registry.builtin.registerAll registrations).find? "urlenc" =
      some Conversion.urlenc :=
    (Registry.find?_registerAll_of_ne hkept).trans rfl
  rw [Template.value_split] at hS
  obtain ⟨texts, hfilled, hjoin⟩ : ∃ texts, List.Forall₂ (Segment.FilledBy ctx) S texts ∧
      (fillSegments ctx S).value = String.join texts := filledBy_fillSegments S
  refine ⟨texts, by rw [Template.fill_of_segments?_eq_some hS, hjoin], hfilled.imp ?_⟩
  intro segment text htext
  refine ⟨htext, ?_⟩
  rintro content argument rfl
  obtain rfl := htext.eq_inserted
  rw [Placeholder.value_resolve_urlenc hr, urlSafe_inserted_urlenc_iff]
  refine ⟨Iff.rfl, fun s hs bytes => ?_⟩
  rw [hs]
  exact urlWrites_inserted_urlenc

/-- The query of a URL. Another conversion has been registered, under another name. -/
theorem urlenc_inserts_urlSafe_query :
    let ctx : Context := ⟨fun _ => some (.str "a b/é"),
      ⟨fun _ _ _ => pure .success, fun _ _ => pure .success⟩,
      (Registry.builtin.registerAll [("int", fun _ => none)]).convert⟩
    (Template.split brackets "?q=[[urlenc(a)]]").value =
        some [.text "?q=", .placeholder "urlenc(a)" (.call "urlenc" (.ref "a"))] ∧
      ∃ text, (Template.fill brackets ctx "?q=[[urlenc(a)]]").value = "?q=" ++ text ∧
        UrlSafe text.toList ∧
        ∀ bytes, UrlWrites text.toList bytes ↔ bytes = "a b/é".toUTF8.data.toList := by
  intro ctx
  have hsplit : (Template.split brackets "?q=[[urlenc(a)]]").value =
      some [.text "?q=", .placeholder "urlenc(a)" (.call "urlenc" (.ref "a"))] := by cbv
  have hkept : ∀ c ∈ ([("int", fun _ => none)] : List (String × Conversion)), c.1 ≠ "urlenc" := by
    simp
  obtain ⟨texts, hfill, hfilled⟩ := urlenc_inserts_urlSafe (fun _ => some (.str "a b/é"))
    ⟨fun _ _ _ => pure .success, fun _ _ => pure .success⟩ hkept hsplit
  cases hfilled with
  | @cons _ query _ rest hquery hrest =>
    cases hrest with
    | @cons _ text _ rest htext hrest =>
      cases hrest
      cases hquery.1
      obtain ⟨hsafe, hbytes⟩ := htext.2 "urlenc(a)" (.ref "a") rfl
      exact ⟨hsplit, text, hfill.trans (by simp [String.join_cons]), hsafe.2 (.str _),
        hbytes _ rfl⟩

/-- A list is put in with its brackets and quotes and all that stands between them, and a great
number with a plus sign. -/
theorem not_urlSafe_urlenc :
    let great : Binary64 := .ofWhole (10 ^ 16) (by decide)
    let ctx : Context :=
      ⟨fun path => if path = "a" then some (.arr [.str "a b"]) else some (.num (.real great)),
        ⟨fun _ _ _ => pure .success, fun _ _ => pure .success⟩, Registry.builtin.convert⟩
    ((Template.split brackets "[[urlenc(a)]]").value =
          some [.placeholder "urlenc(a)" (.call "urlenc" (.ref "a"))] ∧
        (Template.fill brackets ctx "[[urlenc(a)]]").value = "[\"a b\"]" ∧
        ¬ UrlSafe "[\"a b\"]".toList) ∧
      (Template.split brackets "[[urlenc(b)]]").value =
          some [.placeholder "urlenc(b)" (.call "urlenc" (.ref "b"))] ∧
        (Template.fill brackets ctx "[[urlenc(b)]]").value = "1e+16" ∧
        ¬ UrlSafe "1e+16".toList := by
  intro great ctx
  have hlist : (Template.split brackets "[[urlenc(a)]]").value =
      some [.placeholder "urlenc(a)" (.call "urlenc" (.ref "a"))] := by cbv
  have hnumber : (Template.split brackets "[[urlenc(b)]]").value =
      some [.placeholder "urlenc(b)" (.call "urlenc" (.ref "b"))] := by cbv
  have hlistFill : (Template.fill brackets ctx "[[urlenc(a)]]").value = "[\"a b\"]" := by
    rw [Template.fill_of_segments?_eq_some ((Template.value_split _ _).symm.trans hlist)]
    rfl
  have hnumberFill : (Template.fill brackets ctx "[[urlenc(b)]]").value = "1e+16" := by
    have htext : great.text = "1e+16".toList := by decide +kernel
    rw [Template.fill_of_segments?_eq_some ((Template.value_split _ _).symm.trans hnumber)]
    change String.ofList great.text ++ "" = "1e+16"
    rw [htext]
    rfl
  refine ⟨⟨hlist, hlistFill, ?_⟩, hnumber, hnumberFill, ?_⟩
  · exact Text.not_urlSafe_of_mem (c := '[') (by decide) (by decide) (by decide)
  · exact Text.not_urlSafe_of_mem (c := '+') (by decide) (by decide) (by decide)

end Rulebook
