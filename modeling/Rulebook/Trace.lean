import Rulebook.Json.Value
import Rulebook.Log

/-!
# Computations that leave a trace

A `Traced ε α` is a value together with the events, in order, that computing it brought about.
Nothing reads the trace back, so the value never depends on it. What an evaluation does outside
itself is an `Event`: it looks a path up, converts a value, has a comparison or a check judged, or
writes a log line.
-/

namespace Rulebook

structure Traced (ε α : Type) where
  value : α
  trace : List ε

namespace Traced

variable {ε δ α β : Type}

@[ext] theorem ext {x y : Traced ε α} (hv : x.value = y.value) (ht : x.trace = y.trace) :
    x = y := by
  cases x; cases y; simp_all

instance : Monad (Traced ε) where
  pure a := ⟨a, []⟩
  bind x f := ⟨(f x.value).value, x.trace ++ (f x.value).trace⟩

@[simp] theorem value_pure (a : α) : (pure a : Traced ε α).value = a := rfl

@[simp] theorem trace_pure (a : α) : (pure a : Traced ε α).trace = [] := rfl

@[simp] theorem value_bind (x : Traced ε α) (f : α → Traced ε β) :
    (x >>= f).value = (f x.value).value := rfl

@[simp] theorem trace_bind (x : Traced ε α) (f : α → Traced ε β) :
    (x >>= f).trace = x.trace ++ (f x.value).trace := rfl

@[simp] theorem value_map (f : α → β) (x : Traced ε α) : (f <$> x).value = f x.value := rfl

@[simp] theorem trace_map (f : α → β) (x : Traced ε α) : (f <$> x).trace = x.trace :=
  List.append_nil x.trace

instance : LawfulMonad (Traced ε) :=
  LawfulMonad.mk' _ (fun x => by ext <;> simp [Functor.map])
    (fun a f => by ext <;> simp)
    (fun x f g => by ext <;> simp [List.append_assoc])

/-- Leaves one event. -/
def tell (e : ε) : Traced ε Unit := ⟨(), [e]⟩

/-- Renames the events. -/
def mapTrace (f : ε → δ) (x : Traced ε α) : Traced δ α := ⟨x.value, x.trace.map f⟩

end Traced

/-- A computation that does nothing but write log lines. -/
abbrev Logged := Traced LogLine

/-- What an evaluation does outside itself. -/
inductive Event where
  | lookup (path : String)
  | convert (name : String) (input : Option Value)
  | compare (lhs : Value) (operator : String) (rhs : Value)
  | check (operator : String) (subject : Option Value)
  | log (line : LogLine)

namespace Event

def path? : Event → Option String
  | .lookup path => some path
  | _ => none

def line? : Event → Option LogLine
  | .log line => some line
  | _ => none

end Event

/-- A computation that may do all that an evaluation does. -/
abbrev Run := Traced Event

namespace Run

/-- Writes the log lines of a computation that does nothing else. -/
def ofLogged {α : Type} (x : Logged α) : Run α := x.mapTrace .log

/-- The paths looked up, in order. -/
def paths {α : Type} (x : Run α) : List String := x.trace.filterMap Event.path?

/-- The lines written, in order. -/
def lines {α : Type} (x : Run α) : List LogLine := x.trace.filterMap Event.line?

end Run
end Rulebook
