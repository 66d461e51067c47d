import Rulebook.Proofs.Compile.Cases
import Rulebook.Proofs.Compile.Rule

/-!
# Which definitions compile, and which fault is reported

A node of a definition is checked for its kind, its body, and then for what its body says: a group
for its connective and its conditions, a matcher for its key, its name and its values. `OwnFault`
says which of these checks is the first to fail. `FirstFault d f` says that `f` is a fault of a
node of `d` at its place, and that no node at a place before it has a fault. Places are ordered
lexicographically, which is the pre-order of the nodes.

**Theorem (`compile_iff_valid_firstFault`).** A definition with an identifier compiles if and only
if its condition is valid, and is refused if and only if its condition has a first fault, which is
the one reported.

One half of each statement is read off the compiler: what compiles is valid, and what is refused is
refused for the first fault. The other halves follow without looking at it again, because a valid
definition has no fault at any of its nodes and the first fault is unique.
-/

namespace Rulebook

/-- The names of matchers. -/
def matcherNames : List String :=
  ["eq", "ne", "gt", "ge", "lt", "le", "co", "nc", "sw", "ew", "ex", "nx"]

theorem mem_matcherNames {s : String} {o : Operator} (h : matcherOperator? s = some o) :
    s ∈ matcherNames := by
  unfold matcherOperator? at h
  split at h
  case h_13 => cases h
  all_goals decide

theorem exists_matcherOperator {s : String} (h : s ∈ matcherNames) :
    ∃ o, matcherOperator? s = some o := by
  have hall : ∀ s ∈ matcherNames, (matcherOperator? s).isSome = true := by decide
  exact Option.isSome_iff_exists.1 (hall s h)

theorem matcherOperator?_eq_none {s : String} : matcherOperator? s = none ↔ s ∉ matcherNames := by
  constructor
  · intro h hs
    obtain ⟨o, ho⟩ := exists_matcherOperator hs
    exact nomatch h.symm.trans ho
  · intro hs
    cases h : matcherOperator? s with
    | none => rfl
    | some o => exact absurd (mem_matcherNames h) hs

theorem Connective.ofName?_eq_none {s : String} : ofName? s = none ↔ s ∉ ["and", "or"] := by
  constructor
  · intro h hs
    have hall : ∀ s ∈ ["and", "or"], (ofName? s).isSome = true := by decide
    simpa [h] using hall s hs
  · intro hs
    cases h : ofName? s with
    | none => rfl
    | some k =>
      obtain rfl := eq_name_of_ofName? h
      exact absurd (by cases k <;> decide) hs

namespace ConditionDefinition

/-! ## Faults and validity -/

/-- The first check that a node fails, apart from those of its conditions. -/
inductive OwnFault (d : ConditionDefinition) : ConditionFault → Prop where
  | kind (hg : d.kind ≠ "group") (hm : d.kind ≠ "matcher") : OwnFault d (.unsupportedKind d.kind)
  | body {e : Json.ShapeError} (he : d.IsMalformed e) : OwnFault d (.malformedBody e)
  | connective {g : GroupDefinition} (hg : d.IsGroup g) (hl : g.logic ∉ ["and", "or"]) :
      OwnFault d (.unknownConnective g.logic)
  | noConditions {g : GroupDefinition} (hg : d.IsGroup g) (hl : g.logic ∈ ["and", "or"])
      (hc : g.conditions = []) : OwnFault d .emptyGroup
  | key {m : MatcherDefinition} (hm : d.IsMatcher m) (hk : m.key = "") : OwnFault d .emptyKey
  | name {m : MatcherDefinition} (hm : d.IsMatcher m) (hk : m.key ≠ "")
      (hn : m.matcher ∉ matcherNames) : OwnFault d (.unknownMatcher m.matcher)
  | values {m : MatcherDefinition} (hm : d.IsMatcher m) (hk : m.key ≠ "")
      (hn : m.matcher ∈ matcherNames) (hu : m.matcher ∉ ["ex", "nx"]) (hv : m.values = []) :
      OwnFault d (.noValues m.matcher)

inductive Valid : ConditionDefinition → Prop where
  | group {d : ConditionDefinition} {g : GroupDefinition} (hg : d.IsGroup g)
      (hl : g.logic ∈ ["and", "or"]) (hne : g.conditions ≠ [])
      (hall : ∀ c ∈ g.conditions, Valid c) : Valid d
  | matcher {d : ConditionDefinition} {m : MatcherDefinition} (hm : d.IsMatcher m)
      (hk : m.key ≠ "") (hn : m.matcher ∈ matcherNames)
      (hv : m.matcher ∈ ["ex", "nx"] ∨ m.values ≠ []) : Valid d

/-- A fault of a node such that no node before it has a fault. -/
structure FirstFault (d : ConditionDefinition) (f : LocatedFault) : Prop where
  found : ∃ n, d.At f.path n ∧ n.OwnFault f.fault
  first : ∀ path n fault, d.At path n → n.OwnFault fault → ¬ path < f.path

/-! ## A valid definition has no fault -/

theorem Valid.conditions {d : ConditionDefinition} {g : GroupDefinition} (h : d.Valid)
    (hg : d.IsGroup g) : ∀ c ∈ g.conditions, c.Valid := by
  cases h with
  | group hg' _ _ hall =>
    obtain rfl := hg.unique hg'
    exact hall
  | matcher hm _ _ _ => exact absurd hm hg.not_isMatcher

theorem Valid.at {d n : ConditionDefinition} {path : List Nat} (h : d.Valid) (hat : d.At path n) :
    n.Valid := by
  induction hat with
  | here => exact h
  | member hg hc _ ih => exact ih (h.conditions hg _ (List.mem_of_getElem? hc))

theorem IsGroup.not_isMalformed {d : ConditionDefinition} {g : GroupDefinition}
    {e : Json.ShapeError} (h : d.IsGroup g) : ¬ d.IsMalformed e := by
  rintro (⟨-, he⟩ | ⟨hk, -⟩)
  · exact nomatch h.2.symm.trans he
  · exact absurd (h.1.symm.trans hk) (by decide)

theorem IsMatcher.not_isMalformed {d : ConditionDefinition} {m : MatcherDefinition}
    {e : Json.ShapeError} (h : d.IsMatcher m) : ¬ d.IsMalformed e := by
  rintro (⟨hk, -⟩ | ⟨-, he⟩)
  · exact absurd (h.1.symm.trans hk) (by decide)
  · exact nomatch h.2.symm.trans he

/-- A group fails no check of its own once its connective is known and it has conditions. -/
theorem IsGroup.not_ownFault {d : ConditionDefinition} {g : GroupDefinition} {f : ConditionFault}
    (hg : d.IsGroup g) (hl : g.logic ∈ ["and", "or"]) (hne : g.conditions ≠ []) :
    ¬ d.OwnFault f := by
  intro h
  cases h with
  | kind hk _ => exact hk hg.1
  | body he => exact hg.not_isMalformed he
  | connective hg' hl' =>
    obtain rfl := hg.unique hg'
    exact hl' hl
  | noConditions hg' _ hc =>
    obtain rfl := hg.unique hg'
    exact hne hc
  | key hm | name hm | values hm => exact hg.not_isMatcher hm

theorem Valid.not_ownFault {d : ConditionDefinition} {f : ConditionFault} (h : d.Valid) :
    ¬ d.OwnFault f := by
  cases h with
  | group hg hl hne _ => exact hg.not_ownFault hl hne
  | matcher hm hk hn hv =>
    intro hf
    cases hf with
    | kind _ hk => exact hk hm.1
    | body he => exact hm.not_isMalformed he
    | connective hg | noConditions hg => exact hg.not_isMatcher hm
    | key hm' hk' =>
      obtain rfl := hm.unique hm'
      exact hk hk'
    | name hm' _ hn' =>
      obtain rfl := hm.unique hm'
      exact hn' hn
    | values hm' _ _ hu hv' =>
      obtain rfl := hm.unique hm'
      exact hv.elim hu fun hv => hv hv'

theorem Valid.not_firstFault {d : ConditionDefinition} {f : LocatedFault} (h : d.Valid) :
    ¬ d.FirstFault f := by
  rintro ⟨⟨n, hat, hf⟩, -⟩
  exact (h.at hat).not_ownFault hf

/-! ## What compiles is valid -/

theorem valid_of_compile_ok {d : ConditionDefinition} {c : Condition} (h : d.compile = .ok c) :
    d.Valid := by
  induction d using ConditionDefinition.induction generalizing c with
  | step d ih =>
    rcases compile_eq_ok h with ⟨g, cs, k, hg, hl, hne, hcs, rfl⟩ | ⟨m, hm, hc⟩
    · refine .group hg (by cases k <;> simp [hl, Connective.name]) hne fun e he => ?_
      obtain ⟨c, -, hec⟩ := exists_mem_of_forall₂ hcs e he
      exact ih g hg e he hec
    · obtain ⟨o, ho, hk, hforms⟩ := MatcherDefinition.compile_eq_ok hc
      refine .matcher hm hk (mem_matcherNames ho) ?_
      rcases hforms with ⟨hu, -⟩ | ⟨-, v, hv, -⟩ | ⟨-, hne, -⟩
      · rcases matcherOperator?_cases ho with ⟨hu', -⟩ | ⟨hex, -⟩ | ⟨hnx, -⟩
        · exact absurd (hu.symm.trans hu') (by decide)
        · exact .inl (by simp [hex])
        · exact .inl (by simp [hnx])
      · exact .inr (by simp [hv])
      · exact .inr hne

/-! ## What is refused has a first fault, which is reported -/

theorem ownFault_of_compile_error {d : ConditionDefinition} {m : MatcherDefinition}
    {f : ConditionFault} (hm : d.IsMatcher m) (h : m.compile = .error f) : d.OwnFault f := by
  unfold MatcherDefinition.compile at h
  split at h
  · next hk => cases h; exact .key hm hk
  · next hk =>
    split at h
    · next ho => cases h; exact .name hm hk (matcherOperator?_eq_none.1 ho)
    · next o ho =>
      simp only [MatcherDefinition.condition] at h
      split at h
      · cases h
      · next hu =>
        split at h
        · next hv =>
          cases h
          refine .values hm hk (mem_matcherNames ho) ?_ hv
          rcases matcherOperator?_cases ho with ⟨-, hex, hnx, -⟩ | ⟨-, rfl⟩ | ⟨-, rfl⟩
          · simp [hex, hnx]
          · exact absurd rfl hu
          · exact absurd rfl hu
        · cases h
        · cases h

/-- **What is refused.** A node is refused for a fault of its own, or for that of the first of its
conditions that does not compile. -/
theorem compile_eq_error {d : ConditionDefinition} {f : LocatedFault} (h : d.compile = .error f) :
    (f.path = [] ∧ d.OwnFault f.fault) ∨
      ∃ g before e after f', d.IsGroup g ∧ g.logic ∈ ["and", "or"] ∧
        g.conditions = before ++ e :: after ∧ (∀ b ∈ before, ∃ c, b.compile = .ok c) ∧
        e.compile = .error f' ∧ f = f'.under [before.length] := by
  unfold compile at h
  rcases isGroup_or_isMatcher_or d with ⟨g, hg⟩ | ⟨m, hm⟩ | ⟨e, he⟩ | ⟨hg, hm⟩
  · rw [ofDefinition_isGroup hg] at h
    simp only [Outline.compile] at h
    split at h
    · next hl => cases h; exact .inl ⟨rfl, .connective hg (Connective.ofName?_eq_none.1 hl)⟩
    · next k hk =>
      have hl : g.logic ∈ ["and", "or"] := by
        rw [Connective.eq_name_of_ofName? hk]
        cases k <;> decide
      split at h
      · next hc => cases h; exact .inl ⟨rfl, .noConditions hg hl (by simpa using hc)⟩
      · cases hcs : Outline.compileMembers [] 0 (g.conditions.map Outline.ofDefinition) with
        | ok cs => rw [hcs] at h; cases h
        | error f₁ =>
          rw [hcs] at h
          cases h
          obtain ⟨before, e, after, f', hsplit, hb, hf', rfl⟩ := compileMembers_eq_error hcs
          rw [Nat.zero_add]
          exact .inr ⟨g, before, e, after, f', hg, hl, hsplit, hb, hf', rfl⟩
  · rw [ofDefinition_isMatcher hm, Outline.compile] at h
    cases hc : m.compile with
    | ok c => rw [hc] at h; cases h
    | error f' => rw [hc] at h; cases h; exact .inl ⟨rfl, ownFault_of_compile_error hm hc⟩
  · rw [ofDefinition_isMalformed he] at h
    cases h
    exact .inl ⟨rfl, .body he⟩
  · rw [ofDefinition_unsupported hg hm] at h
    cases h
    exact .inl ⟨rfl, .kind hg hm⟩

/-- The fault reported is the first one, by induction on the nesting of groups. -/
theorem firstFault_of_compile_error {d : ConditionDefinition} {f : LocatedFault}
    (h : d.compile = .error f) : d.FirstFault f := by
  induction d using ConditionDefinition.induction generalizing f with
  | step d ih =>
    rcases compile_eq_error h with
      ⟨hpath, hf⟩ | ⟨g, before, e, after, f', hg, hl, hsplit, hb, he, rfl⟩
    · refine ⟨⟨d, hpath ▸ .here d, hf⟩, fun path n fault _ _ hlt => ?_⟩
      rw [hpath] at hlt
      exact List.not_lt_nil path hlt
    · have hmem : e ∈ g.conditions := by rw [hsplit]; simp
      have hat : g.conditions[before.length]? = some e := by rw [hsplit]; simp
      obtain ⟨⟨n, hn, hf⟩, hfirst⟩ := ih g hg e hmem he
      refine ⟨⟨n, .member hg hat hn, hf⟩, fun path n' fault hn' hf' hlt => ?_⟩
      cases hn' with
      | here => exact hg.not_ownFault hl (List.ne_nil_of_mem hmem) hf'
      | @member _ b _ _ i path hg' hi hn' =>
        obtain rfl := hg.unique hg'
        rcases List.cons_lt_cons_iff.1 hlt with hpos | ⟨rfl, hrest⟩
        · -- An earlier condition compiled, so it is valid.
          have hbefore : b ∈ before := by
            rw [hsplit, List.getElem?_append_left hpos] at hi
            exact List.mem_of_getElem? hi
          obtain ⟨c, hc⟩ := hb b hbefore
          exact ((valid_of_compile_ok hc).at hn').not_ownFault hf'
        · obtain rfl := Option.some.inj (hat.symm.trans hi)
          exact hfirst path n' fault hn' hf' hrest

/-! ## The other halves -/

theorem valid_iff_compile_ok {d : ConditionDefinition} : d.Valid ↔ ∃ c, d.compile = .ok c := by
  constructor
  · intro h
    cases hd : d.compile with
    | ok c => exact ⟨c, rfl⟩
    | error f => exact absurd (firstFault_of_compile_error hd) h.not_firstFault
  · rintro ⟨c, hc⟩
    exact valid_of_compile_ok hc

/-- A fault of the root is what the root is refused for, whatever is wrong further down. -/
theorem compile_of_ownFault {d : ConditionDefinition} {f : ConditionFault} (hf : d.OwnFault f) :
    d.compile = .error ⟨[], f⟩ := by
  unfold compile
  cases hf with
  | kind hg hm => rw [ofDefinition_unsupported hg hm]; rfl
  | body he => rw [ofDefinition_isMalformed he]; rfl
  | connective hg hl =>
    rw [ofDefinition_isGroup hg, Outline.compile, Connective.ofName?_eq_none.2 hl]
  | noConditions hg hl hc =>
    rw [ofDefinition_isGroup hg, Outline.compile, hc]
    cases hk : Connective.ofName? _ with
    | none => exact absurd hl (Connective.ofName?_eq_none.1 hk)
    | some k => rfl
  | key hm hk =>
    rw [ofDefinition_isMatcher hm, Outline.compile, MatcherDefinition.compile, if_pos hk]
    rfl
  | name hm hk hn =>
    rw [ofDefinition_isMatcher hm, Outline.compile, MatcherDefinition.compile, if_neg hk,
      matcherOperator?_eq_none.2 hn]
    rfl
  | @values m hm hk hn hu hv =>
    obtain ⟨o, ho⟩ := exists_matcherOperator hn
    have hbinary : o.isUnary = false := by
      rcases matcherOperator?_cases ho with ⟨hbinary, -⟩ | ⟨hex, -⟩ | ⟨hnx, -⟩
      · exact hbinary
      · exact absurd (by simp [hex]) hu
      · exact absurd (by simp [hnx]) hu
    have hcompile : m.compile = .error (.noValues m.matcher) := by
      rw [MatcherDefinition.compile, if_neg hk, ho]
      simp [MatcherDefinition.condition, hbinary, hv]
    rw [ofDefinition_isMatcher hm, Outline.compile, hcompile]
    rfl

theorem OwnFault.unique {d : ConditionDefinition} {f f' : ConditionFault} (h : d.OwnFault f)
    (h' : d.OwnFault f') : f = f' := by
  have heq := (compile_of_ownFault h).symm.trans (compile_of_ownFault h')
  cases heq
  rfl

theorem FirstFault.unique {d : ConditionDefinition} {f f' : LocatedFault} (h : d.FirstFault f)
    (h' : d.FirstFault f') : f = f' := by
  obtain ⟨⟨n, hn, hf⟩, hfirst⟩ := h
  obtain ⟨⟨n', hn', hf'⟩, hfirst'⟩ := h'
  have hpath : f.path = f'.path :=
    List.le_antisymm (hfirst _ n' _ hn' hf') (hfirst' _ n _ hn hf)
  obtain rfl := hn.unique (hpath ▸ hn')
  have hfault := hf.unique hf'
  cases f
  cases f'
  cases hpath
  cases hfault
  rfl

theorem firstFault_iff_compile_error {d : ConditionDefinition} {f : LocatedFault} :
    d.FirstFault f ↔ d.compile = .error f := by
  constructor
  · intro h
    cases hd : d.compile with
    | ok c => exact absurd h (valid_of_compile_ok hd).not_firstFault
    | error f' => rw [h.unique (firstFault_of_compile_error hd)]
  · exact firstFault_of_compile_error

end ConditionDefinition

/-! ## Places in writing -/

namespace LocatedFault

theorem pathText_eq_join (path : List Nat) :
    pathText path = "condition" ++ String.join (path.map fun i => s!".conditions[{i}]") := by
  suffices h : ∀ start, path.foldl (fun s i => s ++ s!".conditions[{i}]") start =
      start ++ String.join (path.map fun i => s!".conditions[{i}]") from h "condition"
  induction path with
  | nil => intro start; simp
  | cons i rest ih =>
    intro start
    rw [List.foldl_cons, ih, List.map_cons, String.join_cons, String.append_assoc]

end LocatedFault

/-- Whatever the fault, its message names its place, and depends on the place in no other way. -/
theorem RuleError.message_condition (fault : ConditionFault) :
    ∃ before after, ∀ path, (RuleError.condition ⟨path, fault⟩).message =
      before ++ LocatedFault.pathText path ++ after := by
  show ∃ before after, ∀ path, conditionMessage ⟨path, fault⟩ =
    before ++ LocatedFault.pathText path ++ after
  cases fault with
  | unsupportedKind kind =>
    exact ⟨"不支持的条件类型: " ++ kind ++ " (条件 ", ")", fun path => rfl⟩
  | unknownMatcher matcher =>
    exact ⟨"不支持的匹配器: " ++ matcher ++ " (条件 ", ")", fun path => rfl⟩
  | malformedBody e =>
    refine ⟨"规则解析失败: 条件 '", "' 的定义无效: " ++ e.message, fun path => ?_⟩
    exact String.append_assoc
  | unknownConnective logic =>
    refine ⟨"规则解析失败: 逻辑组 '", "' 的连接符无效: " ++ logic, fun path => ?_⟩
    exact String.append_assoc
  | emptyGroup => exact ⟨"规则解析失败: 逻辑组 '", "' 不能为空", fun path => rfl⟩
  | emptyKey => exact ⟨"规则解析失败: 条件 '", "' 的 key 不能为空", fun path => rfl⟩
  | noValues matcher =>
    refine ⟨"规则解析失败: 条件 '", "' 的 " ++ matcher ++ " 匹配器需要至少一个值", fun path => ?_⟩
    simp only [conditionMessage, String.append_assoc]

/-! ## Definitions of rules -/

/-- **What compiles, and why the rest is refused.** A definition compiles exactly when it has an
identifier and a valid condition. One without an identifier is refused for that. Any other one is
refused exactly for the first fault of its condition, and the message names its place: `condition`,
followed by the position of each condition on the way down. -/
theorem compile_iff_valid_firstFault (k : Compiler) (d : RuleDefinition) :
    ((∃ r, (k.compile d).1 = .ok r) ↔ d.id ≠ "" ∧ d.condition.Valid) ∧
      (∀ e, (k.compile d).1 = .error e ↔
        (d.id = "" ∧ e = .emptyId) ∨
          (d.id ≠ "" ∧ ∃ f, e = .condition f ∧ d.condition.FirstFault f)) ∧
      ∀ fault, ∃ before after, ∀ path, (RuleError.condition ⟨path, fault⟩).message =
        before ++ ("condition" ++ String.join (path.map fun i => s!".conditions[{i}]")) ++
          after := by
  refine ⟨?_, fun e => ?_, fun fault => ?_⟩
  · simp only [Compiler.compile_eq_ok, ConditionDefinition.valid_iff_compile_ok]
    constructor
    · rintro ⟨r, hid, c, hc, -⟩
      exact ⟨hid, c, hc⟩
    · rintro ⟨hid, c, hc⟩
      exact ⟨k.ruleOf d c, hid, c, hc, rfl⟩
  · simp only [Compiler.compile_eq_error, ConditionDefinition.firstFault_iff_compile_error,
      and_comm]
  · simp only [← LocatedFault.pathText_eq_join]
    exact RuleError.message_condition fault

end Rulebook
