import Rulebook.Proofs.Comparison.Basic
import Rulebook.Proofs.Text.Lowercase

/-!
# Ignoring case

Where case is ignored, both sides of a comparison are lower-cased, each on its own, and then
compared. What is equal stays equal. What is a part of a text does not always stay one: the
capital sigma at the end of a pattern is lower-cased as the end of a word, and in the text that is
searched it may stand within one (`not_accepts_ignored_roadSign`).

**Theorem (`accepts_ignored_of_exact`).** Ignoring case makes equality hold more often and its
opposite less often. It does the same for searching wherever the pattern is found in the text with
its word ends kept: each capital sigma in it ends a word there just when it does in the pattern
alone, as is the case for every pattern without a capital sigma. At the beginning and at the end of
a text nothing else will do. No other operator, and no other kind of values, makes a difference
between the modes.
-/

namespace Rulebook

/-! ## Operators and values that case does not matter to -/

/-- The operators that compare texts. -/
def textOperators : List String :=
  ["equals", "notEquals", "startsWith", "endsWith", "contains", "notContains"]

namespace Judge

theorem compare_congr {mode mode' : CaseMode} {l r : Value} {operator : String}
    (h : ∀ o : Operator, o.name = operator → o.holds? mode l r = o.holds? mode' l r) :
    (standard mode).compare l operator r = (standard mode').compare l operator r := by
  show ofResult operator ((Operator.ofName? operator).bind _) =
    ofResult operator ((Operator.ofName? operator).bind _)
  cases ho : Operator.ofName? operator with
  | none => rfl
  | some o =>
    rw [Option.bind_some, Option.bind_some, h o (Operator.eq_name_of_ofName? ho).symm]

/-- Only the operators on texts depend on the mode. -/
theorem compare_of_not_mem_textOperators (mode mode' : CaseMode) (l r : Value)
    {operator : String} (h : operator ∉ textOperators) :
    (standard mode).compare l operator r = (standard mode').compare l operator r := by
  apply compare_congr
  rintro o rfl
  cases o with
  | equals | notEquals | startsWith | endsWith | contains | notContains =>
    exact absurd (by decide) h
  | _ => rfl

/-- The mode matters between two strings only. -/
theorem compare_of_not_strings (mode mode' : CaseMode) {l r : Value}
    (h : ¬ ∃ s t, l = .str s ∧ r = .str t) (operator : String) :
    (standard mode).compare l operator r = (standard mode').compare l operator r := by
  have hequals : l.equals mode r = l.equals mode' r := by
    unfold Value.equals
    split
    · exact absurd ⟨_, _, rfl, rfl⟩ h
    · rfl
  have hstrings (m : CaseMode) (relation : List Char → List Char → Bool) :
      l.stringsStand m relation r = false := by
    rw [← Bool.not_eq_true, Value.stringsStand_eq_true]
    rintro ⟨s, t, hs, ht, -⟩
    exact h ⟨s, t, hs, ht⟩
  apply compare_congr
  rintro o -
  cases o <;> simp only [Operator.holds?, hequals, hstrings]

end Judge

/-! ## Texts that are found -/

namespace Value

/-- The text `r` stands in the text `l` between `u` and `v`, with its word ends kept. -/
def KeptIn (l r : Value) (u v : List Char) : Prop :=
  ∃ s t, l = .str s ∧ r = .str t ∧ s.toList = u ++ (t.toList ++ v) ∧
    Text.KeepsWordEnds u t.toList v

theorem keptIn_str {s t : String} {u v : List Char} :
    (Value.str s).KeptIn (.str t) u v ↔
      s.toList = u ++ (t.toList ++ v) ∧ Text.KeepsWordEnds u t.toList v := by
  simp [KeptIn]

end Value

namespace CaseMode

variable {l r : Value}

theorem accepts_ignored_equals (h : exact.Accepts l "equals" r) :
    ignored.Accepts l "equals" r := by
  rw [accepts_equals] at h ⊢
  unfold Value.equals at h ⊢
  split at h
  · next s t =>
    have hst : s.toList = t.toList := beq_iff_eq.1 h
    exact beq_iff_eq.2 (congrArg Text.lowercase hst)
  · exact h

theorem accepts_ignored_startsWith_iff (h : exact.Accepts l "startsWith" r) :
    ignored.Accepts l "startsWith" r ↔ ∃ v, l.KeptIn r [] v := by
  obtain ⟨s, t, rfl, rfl, v, hv⟩ := accepts_startsWith.1 h
  replace hv : t.toList ++ v = s.toList := hv
  have hlower : ignored.Accepts (.str s) "startsWith" (.str t) ↔
      Text.lowercase t.toList <+: Text.lowercase s.toList := by
    simp [accepts_startsWith, fold]
  rw [hlower]
  constructor
  · intro hp
    rw [← hv, Text.lowercase_prefix_iff] at hp
    exact ⟨v, Value.keptIn_str.2 ⟨hv.symm, hp⟩⟩
  · rintro ⟨w, hw⟩
    obtain ⟨hs, hkept⟩ := Value.keptIn_str.1 hw
    rw [hs, List.nil_append]
    exact Text.lowercase_prefix_iff.2 hkept

theorem accepts_ignored_endsWith_iff (h : exact.Accepts l "endsWith" r) :
    ignored.Accepts l "endsWith" r ↔ ∃ u, l.KeptIn r u [] := by
  obtain ⟨s, t, rfl, rfl, u, hu⟩ := accepts_endsWith.1 h
  replace hu : u ++ t.toList = s.toList := hu
  have hlower : ignored.Accepts (.str s) "endsWith" (.str t) ↔
      Text.lowercase t.toList <:+ Text.lowercase s.toList := by
    simp [accepts_endsWith, fold]
  rw [hlower]
  constructor
  · intro hp
    rw [← hu, Text.lowercase_suffix_iff] at hp
    exact ⟨u, Value.keptIn_str.2 ⟨by rw [List.append_nil, hu], hp⟩⟩
  · rintro ⟨w, hw⟩
    obtain ⟨hs, hkept⟩ := Value.keptIn_str.1 hw
    rw [hs, List.append_nil]
    exact Text.lowercase_suffix_iff.2 hkept

theorem accepts_ignored_contains (h : ∃ u v, l.KeptIn r u v) :
    ignored.Accepts l "contains" r := by
  obtain ⟨u, v, s, t, rfl, rfl, hs, hkept⟩ := h
  refine accepts_contains.2 ⟨s, t, rfl, rfl, ?_⟩
  show Text.lowercase t.toList <:+: Text.lowercase s.toList
  rw [hs]
  exact Text.lowercase_infix_of_keepsWordEnds hkept

/-- Two strings are related by exactly one of `contains` and `notContains`. -/
theorem accepts_notContains_iff {mode : CaseMode} {s t : String} :
    mode.Accepts (.str s) "notContains" (.str t) ↔
      ¬ mode.Accepts (.str s) "contains" (.str t) := by
  simp [accepts_notContains, accepts_contains]

theorem accepts_exact_notContains (h : ignored.Accepts l "notContains" r) :
    exact.Accepts l "notContains" r ∨
      exact.Accepts l "contains" r ∧ ¬ ∃ u v, l.KeptIn r u v := by
  obtain ⟨s, t, rfl, rfl, -⟩ := accepts_notContains.1 h
  rw [accepts_notContains_iff] at h ⊢
  by_cases hc : exact.Accepts (.str s) "contains" (.str t)
  · exact .inr ⟨hc, fun hkept => h (accepts_ignored_contains hkept)⟩
  · exact .inl hc

/-! ## Patterns without a capital sigma

They keep their word ends wherever they stand. -/

section

variable (hr : ∀ t, r = .str t → 'Σ' ∉ t.toList)
include hr

theorem exists_keptIn_of_startsWith (h : exact.Accepts l "startsWith" r) :
    ∃ v, l.KeptIn r [] v := by
  obtain ⟨s, t, rfl, rfl, v, hv⟩ := accepts_startsWith.1 h
  exact ⟨v, Value.keptIn_str.2 ⟨hv.symm, Text.keepsWordEnds_of_not_mem (hr t rfl)⟩⟩

theorem exists_keptIn_of_endsWith (h : exact.Accepts l "endsWith" r) :
    ∃ u, l.KeptIn r u [] := by
  obtain ⟨s, t, rfl, rfl, u, hu⟩ := accepts_endsWith.1 h
  refine ⟨u, Value.keptIn_str.2 ⟨?_, Text.keepsWordEnds_of_not_mem (hr t rfl)⟩⟩
  rw [List.append_nil]
  exact hu.symm

theorem exists_keptIn_of_contains (h : exact.Accepts l "contains" r) :
    ∃ u v, l.KeptIn r u v := by
  obtain ⟨s, t, rfl, rfl, u, v, hs⟩ := accepts_contains.1 h
  refine ⟨u, v, Value.keptIn_str.2 ⟨?_, Text.keepsWordEnds_of_not_mem (hr t rfl)⟩⟩
  rw [← List.append_assoc]
  exact hs.symm

end

end CaseMode

/-- **Ignoring case widens what matches, as far as word ends are kept.** Equality comes to hold more
often and its opposite less often. What begins or ends with a pattern still does, if and only if the
pattern keeps its word ends there; what contains it still does if they are kept in one of the places
where it stands, and if they are not it may come not to contain it. They are kept everywhere if the
pattern has no capital sigma. All other operators, all values that are not two strings, and all
checks are judged alike in both modes. -/
theorem accepts_ignored_of_exact (l r : Value) :
    (CaseMode.exact.Accepts l "equals" r → CaseMode.ignored.Accepts l "equals" r) ∧
      (CaseMode.ignored.Accepts l "notEquals" r → CaseMode.exact.Accepts l "notEquals" r) ∧
      (CaseMode.exact.Accepts l "startsWith" r →
        (CaseMode.ignored.Accepts l "startsWith" r ↔ ∃ v, l.KeptIn r [] v)) ∧
      (CaseMode.exact.Accepts l "endsWith" r →
        (CaseMode.ignored.Accepts l "endsWith" r ↔ ∃ u, l.KeptIn r u [])) ∧
      (CaseMode.exact.Accepts l "contains" r → (∃ u v, l.KeptIn r u v) →
        CaseMode.ignored.Accepts l "contains" r) ∧
      (CaseMode.ignored.Accepts l "notContains" r →
        CaseMode.exact.Accepts l "notContains" r ∨
          CaseMode.exact.Accepts l "contains" r ∧ ¬ ∃ u v, l.KeptIn r u v) ∧
      ((∀ t, r = .str t → 'Σ' ∉ t.toList) →
        (∀ o ∈ ["startsWith", "endsWith", "contains"],
            CaseMode.exact.Accepts l o r → CaseMode.ignored.Accepts l o r) ∧
          (CaseMode.ignored.Accepts l "notContains" r →
            CaseMode.exact.Accepts l "notContains" r)) ∧
      (∀ o, o ∉ textOperators →
        (Judge.standard .exact).compare l o r = (Judge.standard .ignored).compare l o r) ∧
      ((¬ ∃ s t, l = .str s ∧ r = .str t) → ∀ o,
        (Judge.standard .exact).compare l o r = (Judge.standard .ignored).compare l o r) ∧
      ∀ o x, (Judge.standard .exact).check o x = (Judge.standard .ignored).check o x := by
  refine ⟨CaseMode.accepts_ignored_equals, fun h => ?_, CaseMode.accepts_ignored_startsWith_iff,
    CaseMode.accepts_ignored_endsWith_iff, fun _ h => CaseMode.accepts_ignored_contains h,
    CaseMode.accepts_exact_notContains, fun hr => ⟨fun o ho h => ?_, fun h => ?_⟩,
    fun o ho => Judge.compare_of_not_mem_textOperators _ _ l r ho,
    fun h o => Judge.compare_of_not_strings _ _ h o, fun o x => rfl⟩
  · rw [CaseMode.accepts_notEquals, ← Bool.not_eq_true, ← CaseMode.accepts_equals] at h ⊢
    exact fun hexact => h (CaseMode.accepts_ignored_equals hexact)
  · simp only [List.mem_cons, List.not_mem_nil, or_false] at ho
    rcases ho with rfl | rfl | rfl
    · exact (CaseMode.accepts_ignored_startsWith_iff h).2
        (CaseMode.exists_keptIn_of_startsWith hr h)
    · exact (CaseMode.accepts_ignored_endsWith_iff h).2
        (CaseMode.exists_keptIn_of_endsWith hr h)
    · exact CaseMode.accepts_ignored_contains (CaseMode.exists_keptIn_of_contains hr h)
  · rcases CaseMode.accepts_exact_notContains h with h | ⟨hc, hkept⟩
    · exact h
    · exact absurd (CaseMode.exists_keptIn_of_contains hr hc) hkept

/-- The sigma that ends the first of two words keeps its place at the end of a word. -/
theorem accepts_ignored_of_exact_twoWords :
    (CaseMode.exact.Accepts (.str "ΑΓΙΟΣ ΠΕΤΡΟΣ") "startsWith" (.str "ΑΓΙΟΣ") ∧
        Value.KeptIn (.str "ΑΓΙΟΣ ΠΕΤΡΟΣ") (.str "ΑΓΙΟΣ") [] " ΠΕΤΡΟΣ".toList ∧
        CaseMode.ignored.Accepts (.str "ΑΓΙΟΣ ΠΕΤΡΟΣ") "startsWith" (.str "ΑΓΙΟΣ")) ∧
      (CaseMode.exact.Accepts (.str "ΑΓΙΟΣ ΠΕΤΡΟΣ") "contains" (.str "ΠΕ") ∧
        CaseMode.ignored.Accepts (.str "ΑΓΙΟΣ ΠΕΤΡΟΣ") "contains" (.str "ΠΕ")) ∧
      (CaseMode.ignored.Accepts (.str "ΑΓΙΟΣ ΠΕΤΡΟΣ") "notEquals" (.str "ΑΓΙΟΣ") ∧
        CaseMode.exact.Accepts (.str "ΑΓΙΟΣ ΠΕΤΡΟΣ") "notEquals" (.str "ΑΓΙΟΣ")) ∧
      (Judge.standard .exact).compare .null "equals" (.str "Σ") =
        (Judge.standard .ignored).compare .null "equals" (.str "Σ") := by
  have hexact : CaseMode.exact.Accepts (.str "ΑΓΙΟΣ ΠΕΤΡΟΣ") "startsWith" (.str "ΑΓΙΟΣ") := by
    decide +kernel
  have hkept : Value.KeptIn (.str "ΑΓΙΟΣ ΠΕΤΡΟΣ") (.str "ΑΓΙΟΣ") [] " ΠΕΤΡΟΣ".toList :=
    ⟨_, _, rfl, rfl, by decide, Text.keepsWordEnds_iff.2 (by decide +kernel)⟩
  have hpart : CaseMode.exact.Accepts (.str "ΑΓΙΟΣ ΠΕΤΡΟΣ") "contains" (.str "ΠΕ") := by
    decide +kernel
  have hne : CaseMode.ignored.Accepts (.str "ΑΓΙΟΣ ΠΕΤΡΟΣ") "notEquals" (.str "ΑΓΙΟΣ") := by
    decide +kernel
  have hnoSigma : ∀ t, Value.str "ΠΕ" = .str t → 'Σ' ∉ t.toList := by
    rintro t ht
    cases ht
    decide
  refine ⟨⟨hexact, hkept, ?_⟩, ⟨hpart, ?_⟩, ⟨hne, ?_⟩, ?_⟩
  · exact ((accepts_ignored_of_exact _ _).2.2.1 hexact).2 ⟨_, hkept⟩
  · exact ((accepts_ignored_of_exact _ _).2.2.2.2.2.2.1 hnoSigma).1 _ (by simp) hpart
  · exact (accepts_ignored_of_exact _ _).2.1 hne
  · refine (accepts_ignored_of_exact .null (.str "Σ")).2.2.2.2.2.2.2.2.1 ?_ "equals"
    rintro ⟨s, t, hs, -⟩
    cases hs

/-- A road sign begins with a road, but not in lower case, where the road ends in a sigma of its
own. -/
theorem not_accepts_ignored_roadSign :
    CaseMode.exact.Accepts (.str "ΟΔΟΣΗΜΟ") "startsWith" (.str "ΟΔΟΣ") ∧
      ¬ CaseMode.ignored.Accepts (.str "ΟΔΟΣΗΜΟ") "startsWith" (.str "ΟΔΟΣ") ∧
      CaseMode.exact.Accepts (.str "ΟΔΟΣΗΜΟ") "contains" (.str "ΟΔΟΣ") ∧
      ¬ CaseMode.ignored.Accepts (.str "ΟΔΟΣΗΜΟ") "contains" (.str "ΟΔΟΣ") ∧
      CaseMode.ignored.Accepts (.str "ΟΔΟΣΗΜΟ") "notContains" (.str "ΟΔΟΣ") ∧
      ¬ CaseMode.exact.Accepts (.str "ΟΔΟΣΗΜΟ") "notContains" (.str "ΟΔΟΣ") := by
  decide +kernel

end Rulebook
