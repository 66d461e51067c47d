import Rulebook.Proofs.Compile.History
import Rulebook.Proofs.Definition.Agreement
import Rulebook.Proofs.Json.Reading

/-!
# Batches of one

A rule's definition can be given alone, as a text, or as the only item of a batch, which is the same
text in brackets. The two take different ways: alone, the text is read as a definition at once; in
the batch it is read as a value first, and that value as a definition.

**Theorem (`compileText_agrees_with_batch`).** A text that says a value and repeats no name in an
object compiles alone just if it compiles as a batch of one, to the same rule up to an identifier
that was generated, unless containers are nested too deep for one more around them.

The batch holds the value that the text says (`Value.ofText_brackets`), and the definition read from
that value is the one read from the text (`toOption_ofText`). The rest is what one definition comes
to (`alike_compileRead`).
-/

namespace Rulebook

open Json

/-- A definition is read from a text as from the value that the text says. -/
theorem RuleDefinition.toOption_ofText (freshId : String) {text : String} {v : Value}
    (hv : Value.ofText text = .ok v) (hnames : (Document.ofText text).tree.DistinctNames) :
    (RuleDefinition.ofText freshId text).toOption =
      (RuleDefinition.ofValue freshId v).toOption := by
  obtain ⟨t, ht, htv, -⟩ := document_brackets hv
  rw [ht] at hnames
  rw [← RuleDefinition.agree freshId hnames v htv, RuleDefinition.ofText, ht, Document.read,
    toOption_bind]
  cases (RuleDefinition.ofTree freshId t).toOption <;> rfl

namespace Compiler

theorem version_of_compileRead {c : Compiler} {x : Except Fault RuleDefinition} {r : Rule}
    (h : (c.compileRead x).1 = .ok r) : r.version = c.compiled + 1 := by
  rcases compileRead_cases x with ⟨e, he⟩ | ⟨d, cond, hd⟩
  · rw [he c] at h
    cases h
  · rw [hd c] at h
    cases h
    rfl

/-- What is read in two ways, to the same definition or to none, compiles alike. -/
theorem compileRead_of_toOption_eq (c : Compiler) {x y : Except Fault RuleDefinition}
    (h : x.toOption = y.toOption) :
    (c.compileRead x).1 = (c.compileRead y).1 ∨
      ∃ e e', (c.compileRead x).1 = .error e ∧ (c.compileRead y).1 = .error e' := by
  cases x with
  | ok d =>
    cases y with
    | ok d' =>
      obtain rfl : d = d' := Option.some.inj h
      exact .inl rfl
    | error f => cases h
  | error f =>
    cases y with
    | ok d' => cases h
    | error f' => exact .inr ⟨_, _, rfl, rfl⟩

/-- **A text alone and as an item.** Either both compile, to rules that agree, or neither. -/
theorem compileText_cases (c : Compiler) {freshId : String} {freshIds : Nat → String}
    {text : String} {v : Value} (hfresh : freshId ≠ "") (hfreshs : ∀ i, freshIds i ≠ "")
    (hv : Value.ofText text = .ok v) (hnames : (Document.ofText text).tree.DistinctNames) :
    (∃ r r', (c.compileText freshId text).1 = .ok r ∧
        (c.compileRead (readItem freshIds 0 v)).1 = .ok r' ∧
        r' = { r with id := r'.id } ∧ (RuleDefinition.givesId v = true → r'.id = r.id)) ∨
      ∃ e e', (c.compileText freshId text).1 = .error e ∧
        (c.compileRead (readItem freshIds 0 v)).1 = .error e' := by
  have hread : (RuleDefinition.ofText freshId text).toOption =
      (readItem (fun _ => freshId) 0 v).toOption := by
    rw [readItem, toOption_mapError, RuleDefinition.toOption_ofText freshId hv hnames]
  have halike := alike_compileRead c c (fun _ => hfresh) hfreshs 0 0 v
  rw [compileText]
  rcases c.compileRead_of_toOption_eq hread with heq | ⟨e, e', he, he'⟩
  · rw [heq]
    generalize ho : (c.compileRead (readItem (fun _ => freshId) 0 v)).1 = o at halike
    generalize ho' : (c.compileRead (readItem freshIds 0 v)).1 = o' at halike
    cases halike with
    | refused e => exact .inr ⟨e, e, rfl, rfl⟩
    | @compiled r r' h hid =>
      have hversion : r'.version = r.version :=
        (version_of_compileRead ho').trans (version_of_compileRead ho).symm
      rw [hversion] at h
      exact .inl ⟨r, r', rfl, rfl, h, hid⟩
  · rw [he'] at halike
    generalize ho' : (c.compileRead (readItem freshIds 0 v)).1 = o' at halike
    cases halike with
    | refused => exact .inr ⟨e, e', he, rfl⟩

theorem compileBatch_brackets (c : Compiler) (freshIds : Nat → String) {text : String} {v : Value}
    (hv : Value.ofText text = .ok v) (hnesting : (Document.ofText text).tree.nesting ≤ 126) :
    (c.compileBatch freshIds ("[" ++ text ++ "]")).1 =
      .ok ⟨[(c.compileRead (readItem freshIds 0 v)).1].filterMap Except.toOption,
        skips 0 [(c.compileRead (readItem freshIds 0 v)).1]⟩ := by
  have hroom : (Document.ofText text).tree.nesting < depthLimit := Nat.lt_succ_of_le hnesting
  have hitems : HoldsItems ("[" ++ text ++ "]") [v] := ⟨_, Value.ofText_brackets hv hroom, .inl rfl⟩
  rw [c.compileBatch_of_holdsItems freshIds hitems]
  rfl

/-- **Single definitions and batches accept the same.** A text that says a value, nests at most 126
containers and repeats no name in an object compiles to a rule just if the batch of it alone gives
one rule. The two rules are then the same up to the identifier, and the same if one is given. If the
text does not compile, the batch gives no rule and one skip. -/
theorem compileText_agrees_with_batch (c : Compiler) (freshId : String) (freshIds : Nat → String)
    {text : String} {v : Value} (hfresh : freshId ≠ "") (hfreshs : ∀ i, freshIds i ≠ "")
    (hv : Value.ofText text = .ok v) (hnesting : (Document.ofText text).tree.nesting ≤ 126)
    (hnames : (Document.ofText text).tree.DistinctNames) :
    let single := (c.compileText freshId text).1
    let batch := (c.compileBatch freshIds ("[" ++ text ++ "]")).1
    ((∃ r, single = .ok r) ↔ ∃ b r', batch = .ok b ∧ b.rules = [r']) ∧
      (∀ r b r', single = .ok r → batch = .ok b → b.rules = [r'] →
        r' = { r with id := r'.id } ∧ (RuleDefinition.givesId v = true → r'.id = r.id)) ∧
      ∀ e, single = .error e → ∃ s, batch = .ok ⟨[], [s]⟩ := by
  dsimp only
  rw [c.compileBatch_brackets freshIds hv hnesting]
  rcases c.compileText_cases hfresh hfreshs hv hnames with
    ⟨r, r', hsingle, hitem, hagree, hid⟩ | ⟨e, e', hsingle, hitem⟩
  · rw [hsingle, hitem]
    refine ⟨⟨fun _ => ⟨_, r', rfl, rfl⟩, fun _ => ⟨r, rfl⟩⟩, ?_, fun _ h => nomatch h⟩
    rintro r₁ b r₂ ⟨⟩ ⟨⟩ ⟨⟩
    exact ⟨hagree, hid⟩
  · rw [hsingle, hitem]
    refine ⟨⟨?_, ?_⟩, fun _ _ _ h => (nomatch h), fun _ _ => ⟨_, rfl⟩⟩
    · rintro ⟨r, ⟨⟩⟩
    · rintro ⟨b, r', ⟨⟩, ⟨⟩⟩

/-! ## An example -/

/-- The definition `note` as an object, with a member that is no field. -/
def noteText : String :=
  "\x7b\"more\": [\x7b\x7d], \"condition\": [\"matcher\", [\"note\", \"ex\"]], \"id\": \"n\"\x7d"

theorem lex_noteText :
    let quoted (s : String) : Lexeme := .string ⟨s.toList.map .char, none⟩
    lex noteText.toList =
      [.openObject, quoted "more", .colon, .openArray, .openObject, .closeObject, .closeArray,
        .comma, quoted "condition", .colon, .openArray, quoted "matcher", .comma, .openArray,
        quoted "note", .comma, quoted "ex", .closeArray, .closeArray, .comma, quoted "id", .colon,
        quoted "n", .closeObject] := by
  decide +kernel

def noteTree : Tree :=
  let quoted (s : String) : StringText := ⟨s.toList.map .char, none⟩
  .object [(quoted "more", .array [.object [] .closed] none),
    (quoted "condition", .array [.string (quoted "matcher"),
      .array [.string (quoted "note"), .string (quoted "ex")] none] none),
    (quoted "id", .string (quoted "n"))] .closed

theorem document_noteText : Document.ofText noteText = ⟨noteTree, false⟩ := by
  rw [Document.ofText, lex_noteText]
  rfl

theorem ofText_noteText : Value.ofText noteText =
    .ok (.obj [("condition", .arr [.str "matcher", .arr [.str "note", .str "ex"]]),
      ("id", .str "n"), ("more", .arr [.obj []])]) := by
  rw [Value.ofText, document_noteText]
  cbv

theorem compileText_noteText (freshId : String) :
    (new.compileText freshId noteText).1 = .ok (new.ruleOf note noteCondition) := by
  have hread : RuleDefinition.ofText freshId noteText = .ok note := by
    rw [RuleDefinition.ofText, document_noteText]
    rfl
  rw [compileText, hread]
  exact congrArg Prod.fst (compile_note new)

theorem distinctNames_noteTree : noteTree.DistinctNames := by
  have hnames : [some "more", some "condition", some "id"].Nodup := by decide
  have hmore : (Tree.array [.object [] .closed] none).DistinctNames := ⟨⟨.nil, trivial⟩, trivial⟩
  refine ⟨hnames, hmore, ?_, trivial, trivial⟩
  exact ⟨trivial, ⟨trivial, trivial, trivial⟩, trivial⟩

theorem document_zero : Document.ofText "0" = ⟨.number ⟨false, ['0'], none, none⟩, false⟩ := by
  rw [Document.ofText, lex_zero]
  rfl

theorem ofText_zero : Value.ofText "0" = .ok (.num (.whole 0 (by decide))) := by
  rw [Value.ofText, document_zero]
  rfl

theorem compileText_zero (freshId : String) :
    (new.compileText freshId "0").1 = .error zeroError := by
  rw [compileText, RuleDefinition.ofText, document_zero]
  rfl

theorem compileText_agrees_with_batch_noteText :
    let batch (text : String) := (new.compileBatch (fun _ => "other") ("[" ++ text ++ "]")).1
    (∃ b, batch noteText = .ok b ∧ b.rules = [new.ruleOf note noteCondition]) ∧
      ∃ s, batch "0" = .ok ⟨[], [s]⟩ := by
  intro batch
  have hagrees {text : String} {v : Value} (hv : Value.ofText text = .ok v) :=
    new.compileText_agrees_with_batch "fresh" (fun _ => "other") (by decide) (fun _ => by decide) hv
  constructor
  · obtain ⟨hiff, hagree, -⟩ := hagrees ofText_noteText (by rw [document_noteText]; decide)
      (by rw [document_noteText]; exact distinctNames_noteTree)
    have hsingle := compileText_noteText "fresh"
    obtain ⟨b, r', hb, hr'⟩ := hiff.1 ⟨_, hsingle⟩
    obtain ⟨hr, hid⟩ := hagree _ b r' hsingle hb hr'
    rw [hid rfl] at hr
    exact ⟨b, hb, by rw [hr', hr]⟩
  · obtain ⟨-, -, hrefused⟩ := hagrees ofText_zero (by rw [document_zero]; decide)
      (by rw [document_zero]; trivial)
    exact hrefused zeroError (compileText_zero "fresh")

end Compiler
end Rulebook
