import Rulebook.Proofs.Compile.Batch

/-!
# What a compiler has compiled

A compiler is called with a definition, with the text of one, or with the text of a batch, and each
call gives rules or an error. A `history` is a sequence of such calls, each made of the compiler
that the one before has left. `Numbered c rules c'` says how the rules compiled on the way from one
compiler to another are numbered: one after the other, from the count of the first to that of the
second.

**Theorem (`history_numbered_batch_isolated`).** The rules of a history are numbered 1, 2, 3 and so
on, and a call that is refused leaves the compiler as it is. A text that holds a batch gives what
compiling its items one after the other gives, the errors being skipped, and no item makes a
difference to another.

One definition is `Numbered`, and what is numbered can be put together (`Numbered.append`): items
to a batch, by induction on them, and calls to a history, by induction on it.
-/

namespace Rulebook

namespace Compiler

/-! ## Numbers -/

/-- The rules are numbered from the count of one compiler up to that of another. -/
structure Numbered (c : Compiler) (rules : List Rule) (c' : Compiler) : Prop where
  versions : rules.map Rule.version = List.range' (c.compiled + 1) rules.length
  compiled : c'.compiled = c.compiled + rules.length

theorem numbered_nil (c : Compiler) : Numbered c [] c := ⟨rfl, rfl⟩

theorem Numbered.append {c c' c'' : Compiler} {rules rules' : List Rule}
    (h : Numbered c rules c') (h' : Numbered c' rules' c'') :
    Numbered c (rules ++ rules') c'' := by
  constructor
  · have hstart : c'.compiled + 1 = c.compiled + 1 + rules.length := by
      rw [h.compiled]
      omega
    rw [List.map_append, h.versions, h'.versions, hstart, List.length_append,
      List.range'_append_1]
  · rw [h'.compiled, h.compiled, List.length_append, Nat.add_assoc]

theorem numbered_compileRead (c : Compiler) (x : Except Json.Fault RuleDefinition) :
    Numbered c (c.compileRead x).1.toOption.toList (c.compileRead x).2 := by
  rcases compileRead_cases x with ⟨e, he⟩ | ⟨d, cond, hd⟩
  · rw [he c]
    exact numbered_nil c
  · rw [hd c]
    exact ⟨rfl, rfl⟩

theorem numbered_compileEach (c : Compiler) (xs : List (Except Json.Fault RuleDefinition)) :
    Numbered c ((c.compileEach xs).1.filterMap Except.toOption) (c.compileEach xs).2 := by
  induction xs generalizing c with
  | nil => exact numbered_nil c
  | cons x xs ih =>
    have hcons : (c.compileEach (x :: xs)).1.filterMap Except.toOption =
        (c.compileRead x).1.toOption.toList ++
          ((c.compileRead x).2.compileEach xs).1.filterMap Except.toOption := by
      rw [compileEach, List.filterMap_cons]
      cases hx : (c.compileRead x).1 with
      | error | ok => simp only [Except.toOption, Option.toList, List.nil_append,
          List.singleton_append]
    rw [hcons]
    exact (numbered_compileRead c x).append (ih (c.compileRead x).2)

/-! ## Batches given as texts -/

/-- The text holds a batch: a list of items, or an object with a list of them. -/
def HoldsItems (text : String) (items : List Value) : Prop :=
  ∃ v, Value.ofText text = .ok v ∧
    (v = .arr items ∨
      ∃ members, v = .obj members ∧ Value.member? "rules" members = some (.arr items))

theorem batchItems_eq_ok {v : Value} {items : List Value} :
    batchItems v = .ok items ↔
      v = .arr items ∨
        ∃ members, v = .obj members ∧ Value.member? "rules" members = some (.arr items) := by
  constructor
  · intro h
    unfold batchItems at h
    split at h
    · cases h
      exact .inl rfl
    · next members =>
      split at h
      · next hm =>
        cases h
        exact .inr ⟨members, rfl, hm⟩
      · cases h
    · cases h
  · rintro (rfl | ⟨members, rfl, hm⟩)
    · rfl
    · rw [batchItems, hm]

theorem compileBatch_of_holdsItems (c : Compiler) (freshId : Nat → String) {text : String}
    {items : List Value} (h : HoldsItems text items) :
    c.compileBatch freshId text =
      (.ok ⟨(c.itemOutcomes freshId items).1.filterMap Except.toOption,
          skips 0 (c.itemOutcomes freshId items).1⟩,
        (c.itemOutcomes freshId items).2) := by
  obtain ⟨v, hv, hitems⟩ := h
  have hindex : (fun i => readItem freshId (0 + i)) = readItem freshId :=
    funext fun i => by rw [Nat.zero_add]
  simp only [compileBatch, hv, batchItems_eq_ok.2 hitems, compileItems_eq, hindex]
  rfl

theorem compileBatch_of_not_holdsItems (c : Compiler) (freshId : Nat → String) {text : String}
    (h : ¬ ∃ items, HoldsItems text items) : ∃ e, c.compileBatch freshId text = (.error e, c) := by
  unfold compileBatch
  cases hv : Value.ofText text with
  | error b => exact ⟨_, rfl⟩
  | ok v =>
    cases hitems : batchItems v with
    | error e => exact ⟨e, by simp only [hitems]⟩
    | ok items => exact absurd ⟨items, v, hv, batchItems_eq_ok.1 hitems⟩ h

/-! ## Calls -/

/-- A call of a compiler, with the identifiers that are generated for it. -/
inductive Call where
  | definition (d : RuleDefinition)
  | single (freshId text : String)
  | batch (freshId : Nat → String) (text : String)

/-- Makes a call, which gives rules or an error. -/
def Call.run (c : Compiler) : Call → Except RuleError (List Rule) × Compiler
  | .definition d =>
    let (result, c) := c.compile d
    (result.map fun rule => [rule], c)
  | .single freshId text =>
    let (result, c) := c.compileText freshId text
    (result.map fun rule => [rule], c)
  | .batch freshId text =>
    let (result, c) := c.compileBatch freshId text
    (result.map Batch.rules, c)

/-- The rules that an answer gives. -/
def returned (answer : Except RuleError (List Rule)) : List Rule := answer.toOption.getD []

/-- Makes calls one after the other. -/
def history (c : Compiler) : List Call → List (Except RuleError (List Rule)) × Compiler
  | [] => ([], c)
  | call :: rest =>
    let (answer, c) := call.run c
    let (answers, c) := history c rest
    (answer :: answers, c)

namespace Call

/-- A call for a definition, however it is given. -/
theorem numbered_read (c : Compiler) (x : Except Json.Fault RuleDefinition) :
    let answer : Except RuleError (List Rule) := (c.compileRead x).1.map fun rule => [rule]
    Numbered c (returned answer) (c.compileRead x).2 ∧
      ∀ e, answer = .error e → (c.compileRead x).2 = c := by
  have hnumbered := numbered_compileRead c x
  rcases compileRead_cases x with ⟨e, he⟩ | ⟨d, cond, hd⟩
  · rw [he c] at hnumbered ⊢
    exact ⟨hnumbered, fun e' _ => rfl⟩
  · rw [hd c] at hnumbered ⊢
    exact ⟨hnumbered, fun e' h' => nomatch h'⟩

/-- **One call.** Its rules take the next numbers, and if it is refused the compiler stays as it
is. -/
theorem run_numbered (c : Compiler) (call : Call) :
    Numbered c (returned (call.run c).1) (call.run c).2 ∧
      ∀ e, (call.run c).1 = .error e → (call.run c).2 = c := by
  cases call with
  | definition d => exact numbered_read c (.ok d)
  | single freshId text => exact numbered_read c (RuleDefinition.ofText freshId text)
  | batch freshId text =>
    by_cases h : ∃ items, HoldsItems text items
    · obtain ⟨items, hitems⟩ := h
      simp only [run, compileBatch_of_holdsItems c freshId hitems]
      exact ⟨numbered_compileEach c _, fun e h => nomatch h⟩
    · obtain ⟨e, he⟩ := compileBatch_of_not_holdsItems c freshId h
      have hrun : (batch freshId text).run c = (.error e, c) := by
        simp only [run, he]
        rfl
      rw [hrun]
      exact ⟨numbered_nil c, fun e' _ => rfl⟩

end Call

/-- **A whole history is numbered**, by induction on its calls. -/
theorem numbered_history (c : Compiler) (calls : List Call) :
    Numbered c ((c.history calls).1.flatMap returned) (c.history calls).2 := by
  induction calls generalizing c with
  | nil => exact numbered_nil c
  | cons call rest ih => exact (call.run_numbered c).1.append (ih (call.run c).2)

end Compiler

open Compiler in
/-- **Histories are numbered without a gap, and batches are isolated.** The rules that a new
compiler gives over any sequence of calls are numbered 1, 2, 3 and so on, and no call that is
refused changes the compiler. A text that holds no batch is refused. One that does comes to the
outcomes of its items, compiled one after the other: the rules are given in order, and each item
that is refused is skipped, once, with its position and its error and in the order of positions.
What an item comes to is alike in all batches. -/
theorem history_numbered_batch_isolated :
    (∀ calls, ((new.history calls).1.flatMap returned).map Rule.version =
        List.range' 1 ((new.history calls).1.flatMap returned).length) ∧
      (∀ (c : Compiler) (call : Call) (e : RuleError),
        (call.run c).1 = .error e → (call.run c).2 = c) ∧
      (∀ (c : Compiler) (freshId : Nat → String) (text : String),
        (¬ ∃ items, HoldsItems text items) → ∃ e, c.compileBatch freshId text = (.error e, c)) ∧
      (∀ (c : Compiler) (freshId : Nat → String) (text : String) (items : List Value),
        HoldsItems text items →
        let outcomes := (c.itemOutcomes freshId items).1
        ∃ b, c.compileBatch freshId text = (.ok b, (c.itemOutcomes freshId items).2) ∧
          outcomes.length = items.length ∧
          b.rules = outcomes.filterMap Except.toOption ∧
          (∀ s, s ∈ b.skipped ↔ outcomes[s.index]? = some (.error s.error)) ∧
          b.skipped.Pairwise (·.index < ·.index) ∧
          b.rules.length + b.skipped.length = items.length) ∧
      ∀ (c c' : Compiler) (freshId freshId' : Nat → String) (items items' : List Value) (i j : Nat)
        (item : Value), (∀ k, freshId k ≠ "") → (∀ k, freshId' k ≠ "") →
        items[i]? = some item → items'[j]? = some item →
        ∃ o o', (c.itemOutcomes freshId items).1[i]? = some o ∧
          (c'.itemOutcomes freshId' items').1[j]? = some o' ∧
          Alike (RuleDefinition.givesId item) o o' := by
  refine ⟨fun calls => ?_, fun c call => (call.run_numbered c).2,
    fun c freshId text h => compileBatch_of_not_holdsItems c freshId h,
    fun c freshId text items hitems => ?_,
    fun c c' freshId freshId' items items' i j item h h' hi hj =>
      alike_itemOutcomes c c' h h' hi hj⟩
  · exact (numbered_history new calls).versions
  · refine ⟨_, compileBatch_of_holdsItems c freshId hitems, c.length_itemOutcomes freshId items,
      rfl, fun s => ?_, pairwise_skips 0 _, ?_⟩
    · rw [mem_skips]
      simp
    · rw [length_add_length_skips, length_itemOutcomes]

/-! ## An example -/

/-- A definition that checks one key. -/
def note : RuleDefinition where
  id := "n"
  name := ""
  condition := ⟨"matcher", .arr [.str "note", .str "ex"]⟩
  consequences := []

/-- What the condition of `note` compiles to. -/
def noteCondition : Condition := .check "exists" (.placeholder (.ref "note"))

theorem compile_note (k : Compiler) :
    k.compile note = (.ok (k.ruleOf note noteCondition), ⟨k.compiled + 1⟩) :=
  k.compile_of_ok (by decide) (by cbv)

/-- `note` as a list of its fields. -/
def noteItem : Value :=
  .arr [.str "n", .str "", .arr [.str "matcher", .arr [.str "note", .str "ex"]]]

/-- A batch of a number, which is no definition, and of `note`. -/
def mixedBatch : String := "[0, [\"n\", \"\", [\"matcher\", [\"note\", \"ex\"]]]]"

def mixedItems : List Value := [.num (.whole 0 (by decide)), noteItem]

/-- The error of reading a definition from a zero. -/
def zeroError : RuleError :=
  .definition (.shape (.wrongType (.whole 0) (.record "RuleDefinition")))

theorem lex_zero : Json.lex "0".toList = [.number ⟨false, ['0'], none, none⟩] := by
  decide +kernel

theorem lex_mixedBatch :
    let quoted (s : String) : Json.Lexeme := .string ⟨s.toList.map .char, none⟩
    Json.lex mixedBatch.toList =
      [.openArray, .number ⟨false, ['0'], none, none⟩, .comma, .openArray, quoted "n", .comma,
        quoted "", .comma, .openArray, quoted "matcher", .comma, .openArray, quoted "note", .comma,
        quoted "ex", .closeArray, .closeArray, .closeArray, .closeArray] := by
  decide +kernel

namespace Compiler

theorem holdsItems_mixedBatch : HoldsItems mixedBatch mixedItems := by
  refine ⟨.arr mixedItems, ?_, .inl rfl⟩
  rw [Value.ofText, Json.Document.ofText, lex_mixedBatch]
  rfl

theorem not_holdsItems_zero : ¬ ∃ items, HoldsItems "0" items := by
  rintro ⟨items, v, hv, hitems⟩
  rw [Value.ofText, Json.Document.ofText, lex_zero] at hv
  cases hv
  simp at hitems

theorem run_zero (c : Compiler) (freshId : String) :
    (Call.single freshId "0").run c = (.error zeroError, c) := by
  rw [Call.run, compileText, RuleDefinition.ofText, Json.Document.ofText, lex_zero]
  rfl

theorem itemOutcomes_mixedItems (c : Compiler) (freshId : Nat → String) :
    c.itemOutcomes freshId mixedItems =
      ([.error zeroError, .ok (c.ruleOf note noteCondition)], ⟨c.compiled + 1⟩) := by
  show ([.error zeroError, (c.compile note).1], (c.compile note).2) = _
  rw [compile_note]

end Compiler

open Compiler in
theorem history_numbered_batch_isolated_mixedBatch :
    let freshId : Nat → String := fun _ => "fresh"
    let refused : Call := .single "fresh" "0"
    ((new.history [refused, .batch freshId mixedBatch, .definition note]).1.flatMap
          returned).map Rule.version = [1, 2] ∧
      (refused.run new).1 = .error zeroError ∧ (refused.run new).2 = new ∧
      (∃ e, new.compileBatch freshId "0" = (.error e, new)) ∧
      (∃ b, new.compileBatch freshId mixedBatch = (.ok b, ⟨1⟩) ∧
        b.rules = [new.ruleOf note noteCondition] ∧ ⟨0, zeroError⟩ ∈ b.skipped) ∧
      ∃ o o', (new.itemOutcomes freshId mixedItems).1[1]? = some o ∧
        ((⟨5⟩ : Compiler).itemOutcomes freshId [noteItem]).1[0]? = some o' ∧ Alike true o o' := by
  intro freshId refused
  obtain ⟨hversions, hrefused, hnone, hbatch, halike⟩ := history_numbered_batch_isolated
  have hfresh : ∀ i, freshId i ≠ "" := fun _ => by decide
  have herror : (refused.run new).1 = .error zeroError := by rw [run_zero]
  refine ⟨?_, herror, hrefused new refused zeroError herror,
    hnone new freshId "0" not_holdsItems_zero, ?_,
    halike new ⟨5⟩ freshId freshId mixedItems [noteItem] 1 0 noteItem hfresh hfresh rfl rfl⟩
  · rw [hversions]
    simp only [history, refused, run_zero]
    simp only [Call.run, compile_note, itemOutcomes_mixedItems,
      compileBatch_of_holdsItems _ freshId holdsItems_mixedBatch]
    rfl
  · obtain ⟨b, hb, -, hrules, hskipped, -⟩ :=
      hbatch new freshId mixedBatch mixedItems holdsItems_mixedBatch
    rw [itemOutcomes_mixedItems] at hb hrules hskipped
    exact ⟨b, hb, hrules, (hskipped ⟨0, zeroError⟩).2 rfl⟩

end Rulebook
