import Mathlib.Data.List.DropRight
import Rulebook.Comparison
import Rulebook.Rule

/-!
# What an engine has been told

An engine is called to take rules, to drop them all, to use other delimiters, to evaluate its rules,
or to fill in a template. A `history` is a sequence of such calls, each made of the engine that the
one before has left, with the answer to each and what came of it outside.

**Theorem (`rules_and_matches_of_history`).** The rules of an engine are those added since it was
last cleared, in order, each as often as it was added. Evaluating gives those among them that hold
on their own, in the same order, and what is done for it is done rule by rule. Evaluations and
templates leave the engine as it is, so they may be left out of the calls before.

One call adds its rules, or drops all rules, or leaves them (`rules_run`), and never touches the
judge and the conversions (`Told.run`). A whole history follows by induction on its calls, taken
from the last one backwards, as the rules are those added after the last time that all were dropped.
-/

namespace Rulebook.Engine

variable {ρ : Type}

/-! ## Calls -/

/-- A call of an engine. -/
inductive Call (ρ : Type) where
  | add (rules : List ρ)
  | clear
  | delimit (d : Delimiters)
  | evaluate (lookup : String → Option Value)
  | fill (lookup : String → Option Value) (template : String)

/-- What a call gives. -/
inductive Answer (ρ : Type) where
  | done
  | matched (rules : List ρ)
  | text (s : String)

namespace Call

/-- The rules that a call adds. -/
def added : Call ρ → List ρ
  | .add rules => rules
  | _ => []

def isClear : Call ρ → Bool
  | .clear => true
  | _ => false

/-- Does the call ask for an answer only? -/
def asks : Call ρ → Bool
  | .evaluate _ | .fill _ _ => true
  | _ => false

end Call

/-- The rules added by some calls after the last one that clears the engine. -/
def addedSinceClear (calls : List (Call ρ)) : List ρ :=
  (calls.rtakeWhile fun c => !c.isClear).flatMap Call.added

/-- After one more call, what it adds comes last, unless it drops everything. -/
theorem addedSinceClear_concat (calls : List (Call ρ)) (call : Call ρ) :
    addedSinceClear (calls ++ [call]) =
      if call.isClear then [] else addedSinceClear calls ++ call.added := by
  unfold addedSinceClear
  cases h : call.isClear with
  | false => simp [h]
  | true => simp [h]

variable [HasCondition ρ]

namespace Call

/-- Makes a call, which gives an answer and leaves an engine. -/
def run (e : Engine ρ) : Call ρ → Run (Answer ρ) × Engine ρ
  | .add rules => ((fun _ => .done) <$> Run.ofLogged (e.add rules), (e.add rules).value)
  | .clear => ((fun _ => .done) <$> Run.ofLogged e.clear, e.clear.value)
  | .delimit d => (pure .done, e.withDelimiters d)
  | .evaluate lookup => (.matched <$> e.evaluate lookup, e)
  | .fill lookup template => (.text <$> e.fill lookup template, e)

end Call

/-- Makes calls one after the other. -/
def history (e : Engine ρ) : List (Call ρ) → List (Run (Answer ρ)) × Engine ρ
  | [] => ([], e)
  | call :: rest =>
    let (answer, e) := call.run e
    let (answers, e) := history e rest
    (answer :: answers, e)

/-! ## One evaluation -/

/-- The rule holds, evaluated on its own. -/
def holds (ctx : Context) (r : ρ) : Bool :=
  ((HasCondition.condition r).evaluate ctx).value.isSuccess

/-- What is logged about a rule that comes to a failure. -/
def notMatched (outcome : Outcome) : LogLine :=
  ⟨.verbose, logTag, "Rule not matched: " ++ outcome.text⟩

/-- What is logged after all rules have been evaluated. -/
def summary (total count : Nat) : LogLine :=
  ⟨.debug, logTag, s!"Evaluated {total} rules, {count} matched"⟩

example : (summary 3 2).message = "Evaluated 3 rules, 2 matched" := by cbv

/-- What comes of evaluating one rule: what comes of its condition, and one line if it fails. -/
def ruleTrace (ctx : Context) (r : ρ) : List Event :=
  let run := (HasCondition.condition r).evaluate ctx
  run.trace ++ if run.value.isSuccess then [] else [.log (notMatched run.value)]

theorem value_matching (ctx : Context) (rules : List ρ) :
    (matching ctx rules).value = rules.filter (holds ctx) := by
  induction rules with
  | nil => rfl
  | cons r rest ih =>
    rw [matching, Traced.value_bind, List.filter_cons, ← ih, holds]
    cases ((HasCondition.condition r).evaluate ctx).value.isSuccess <;> rfl

theorem trace_matching (ctx : Context) (rules : List ρ) :
    (matching ctx rules).trace = rules.flatMap (ruleTrace ctx) := by
  induction rules with
  | nil => rfl
  | cons r rest ih =>
    rw [matching, Traced.trace_bind, List.flatMap_cons, ← ih, ruleTrace, List.append_assoc]
    cases ((HasCondition.condition r).evaluate ctx).value.isSuccess with
    | false => rfl
    | true => exact congrArg (_ ++ ·) (List.append_nil _)

/-- **Evaluating takes each rule on its own.** -/
theorem evaluate_eq (e : Engine ρ) (lookup : String → Option Value) :
    e.evaluate lookup =
      ⟨e.rules.filter (holds (e.context lookup)),
        e.rules.flatMap (ruleTrace (e.context lookup)) ++
          [.log (summary e.rules.length
            (e.rules.filter (holds (e.context lookup))).length)]⟩ := by
  ext1
  · rw [evaluate, Traced.value_bind, value_matching]
    rfl
  · rw [evaluate, Traced.trace_bind, trace_matching, value_matching]
    rfl

/-! ## Calls one after the other -/

theorem history_append (e : Engine ρ) (calls more : List (Call ρ)) :
    e.history (calls ++ more) =
      ((e.history calls).1 ++ ((e.history calls).2.history more).1,
        ((e.history calls).2.history more).2) := by
  induction calls generalizing e with
  | nil => rfl
  | cons call rest ih =>
    simp only [List.cons_append, history, ih]

theorem length_answers (e : Engine ρ) (calls : List (Call ρ)) :
    (e.history calls).1.length = calls.length := by
  induction calls generalizing e with
  | nil => rfl
  | cons call rest ih => exact congrArg Nat.succ (ih (call.run e).2)

/-! ## What a call changes -/

/-- What the calls so far have made of a new engine. -/
structure Told (judge : Judge) (convert : String → Option Value → Logged (Option Value))
    (calls : List (Call ρ)) (e : Engine ρ) : Prop where
  judge : e.judge = judge
  convert : e.convert = convert
  rules : e.rules = addedSinceClear calls

theorem rules_run (e : Engine ρ) (call : Call ρ) :
    (call.run e).2.rules = if call.isClear then [] else e.rules ++ call.added := by
  cases call with
  | add rules => rfl
  | clear => rfl
  | delimit | evaluate | fill => exact (List.append_nil e.rules).symm

variable {judge : Judge} {convert : String → Option Value → Logged (Option Value)}

theorem Told.run {calls : List (Call ρ)} {e : Engine ρ} (h : Told judge convert calls e)
    (call : Call ρ) : Told judge convert (calls ++ [call]) (call.run e).2 := by
  refine ⟨?_, ?_, ?_⟩
  · rw [← h.judge]
    cases call <;> rfl
  · rw [← h.convert]
    cases call <;> rfl
  · rw [rules_run, addedSinceClear_concat, h.rules]

/-- **A whole history**, by induction on its calls, the last one first. -/
theorem told_history (judge : Judge) (convert : String → Option Value → Logged (Option Value))
    (calls : List (Call ρ)) :
    Told judge convert calls ((new judge convert).history calls).2 := by
  induction calls using List.reverseRecOn with
  | nil => exact ⟨rfl, rfl, rfl⟩
  | append_singleton calls call ih =>
    rw [history_append]
    exact ih.run call

theorem run_of_asks (e : Engine ρ) {call : Call ρ} (h : call.asks = true) :
    (call.run e).2 = e := by
  cases call with
  | evaluate | fill => rfl
  | add | clear | delimit => cases h

/-- Calls that only ask may be left out. -/
theorem history_filter (e : Engine ρ) (calls : List (Call ρ)) :
    (e.history (calls.filter fun c => !c.asks)).2 = (e.history calls).2 := by
  induction calls generalizing e with
  | nil => rfl
  | cons call rest ih =>
    cases h : call.asks with
    | false =>
      rw [List.filter_cons_of_pos (by simp [h])]
      exact ih (call.run e).2
    | true =>
      rw [List.filter_cons_of_neg (by simp [h]), ih]
      show _ = ((call.run e).2.history rest).2
      rw [run_of_asks e h]

/-- The answer to a call is given by the engine that the calls before it have left. -/
theorem getElem?_answers (e : Engine ρ) {calls : List (Call ρ)} {i : Nat} {call : Call ρ}
    (h : calls[i]? = some call) :
    (e.history calls).1[i]? = some (call.run (e.history (calls.take i)).2).1 := by
  obtain ⟨hi, rfl⟩ := List.getElem?_eq_some_iff.1 h
  have hsplit : calls = calls.take i ++ calls[i] :: calls.drop (i + 1) := by
    rw [← List.drop_eq_getElem_cons hi, List.take_append_drop]
  have hlength : ((e.history (calls.take i)).1).length = i := by
    rw [length_answers, List.length_take, Nat.min_eq_left (Nat.le_of_lt hi)]
  conv_lhs => rw [hsplit]
  rw [history_append, List.getElem?_append_right (Nat.le_of_eq hlength), hlength, Nat.sub_self]
  rfl

/-! ## Histories -/

/-- **An engine is an ordered list of what was added to it.** Its rules are those added since it was
last cleared, in the order of the calls and each as often as it was added. An evaluation gives those
that hold on their own, with the judge and the conversions that the engine was made with and nothing
else of what it went through, in order. It does for each rule what evaluating its condition does,
followed by a line of the log if the rule does not hold, and closes with a line that counts the
rules and the matches. So the matches of some rules and more are the matches of the ones followed by
those of the others. Evaluations and templates make no difference to the engine. -/
theorem rules_and_matches_of_history (judge : Judge)
    (convert : String → Option Value → Logged (Option Value)) (calls : List (Call ρ)) :
    let answers := ((new judge convert).history calls).1
    let e := ((new judge convert).history calls).2
    e.rules = addedSinceClear calls ∧
      ((new judge convert).history (calls.filter fun c => !c.asks)).2 = e ∧
      (∀ i lookup, calls[i]? = some (.evaluate lookup) →
        let rules := addedSinceClear (calls.take i)
        let ctx : Context := ⟨lookup, judge, convert⟩
        let matched := rules.filter (holds ctx)
        answers[i]? = some ⟨.matched matched,
          rules.flatMap (ruleTrace ctx) ++ [.log (summary rules.length matched.length)]⟩) ∧
      ∀ lookup (A B : List ρ),
        ({ e with rules := A ++ B }.evaluate lookup).value =
          ({ e with rules := A }.evaluate lookup).value ++
            ({ e with rules := B }.evaluate lookup).value := by
  intro answers e
  refine ⟨(told_history judge convert calls).rules, history_filter _ calls,
    fun i lookup hi => ?_, fun lookup A B => ?_⟩
  · have htold := told_history judge convert (calls.take i)
    intro rules ctx matched
    rw [getElem?_answers _ hi, Call.run, evaluate_eq, htold.rules, context, htold.judge,
      htold.convert]
    exact congrArg some (Traced.ext rfl (Traced.trace_map _ _))
  · rw [evaluate_eq, evaluate_eq, evaluate_eq]
    exact List.filter_append A B

/-- A rule that asks for a key to be there. -/
def keyRule (key : String) : Rule where
  id := key
  name := ""
  condition := .check "exists" (.placeholder (.ref key))
  consequences := []
  requiredFields := [key]
  version := 1

theorem rules_and_matches_of_history_cleared :
    let judge := Judge.standard .exact
    let convert : String → Option Value → Logged (Option Value) := fun _ v => pure v
    let lookup : String → Option Value := fun path => if path = "a" then some (.bool true) else none
    let calls : List (Call Rule) :=
      [.add [keyRule "a"], .evaluate lookup, .clear, .add [keyRule "b", keyRule "a"],
        .delimit .braces, .add [keyRule "a"], .fill lookup "\x7b\x7ba", .evaluate lookup]
    calls[7]? = some (.evaluate lookup) ∧
      ((new judge convert).history calls).1[7]? =
        some ⟨.matched [keyRule "a", keyRule "a"],
          [.lookup "b", .check "exists" none,
            .log (notMatched (.failure .conditionFailed
              "Condition not matched for operation exists")),
            .lookup "a", .check "exists" (some (.bool true)),
            .lookup "a", .check "exists" (some (.bool true)),
            .log (summary 3 2)]⟩ := by
  intro judge convert lookup calls
  have hcall : calls[7]? = some (.evaluate lookup) := rfl
  refine ⟨hcall, ?_⟩
  rw [(rules_and_matches_of_history judge convert calls).2.2.1 7 lookup hcall]
  rfl

end Rulebook.Engine
