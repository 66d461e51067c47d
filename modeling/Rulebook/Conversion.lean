import Rulebook.Json.Printer
import Rulebook.Text.Blank
import Rulebook.Text.Percent
import Rulebook.Trace

/-!
# Named conversions

A conversion takes a value that may be absent and gives one that may be absent. A `Registry`
names them: five are built in, others can be registered, and the one registered last under a name
counts. A name that is not registered leaves the value as it is and writes a log line.

`int` and `double` leave alone what they cannot convert. `int` truncates toward zero and clamps to
the range of 64 bits with a sign; text that denotes no finite number stays text under `int`, while
under `double` text that denotes an infinity or no number gives `null`, JSON having no such
number.
-/

namespace Rulebook

/-- A value that may be absent, converted. -/
abbrev Conversion := Option Value → Option Value

/-- The nearest whole number of 64 bits with a sign. -/
def clamp64 (i : Int) : Int := max (-(2 ^ 63)) (min i (2 ^ 63 - 1))

theorem clamp64_range (i : Int) : -(2 ^ 63) ≤ clamp64 i ∧ clamp64 i < 2 ^ 64 := by
  simp only [clamp64]
  omega

/-- A clamped whole number as a value. -/
def Value.ofClamped (i : Int) : Value := .num (.whole (clamp64 i) (clamp64_range i))

namespace Conversion

/-- The whole number that a text writes, if it fits 64 bits with a sign. -/
def readInt64? (cs : List Char) : Option Int :=
  (readInteger? cs).filter fun i => decide (-(2 ^ 63) ≤ i ∧ i < 2 ^ 63)

/-- The whole number, if it fits 64 bits with a sign. -/
def int64? : Number → Option Int
  | .whole i _ => if i < 2 ^ 63 then some i else none
  | .real _ => none

/-- The whole part of a number, before clamping. What does not fit 64 bits with a sign is rounded
first. -/
def wholePart (n : Number) : Int := (int64? n).getD n.toBinary64.truncate

/-- The whole number that a text denotes, before clamping. -/
def textWholePart? (cs : List Char) : Option Int :=
  (readInt64? cs).or (((Numeral.read? cs).bind Numeral.finite?).map Binary64.truncate)

def int : Conversion
  | some (.str s) =>
    match textWholePart? (Text.trim s.toList) with
    | some i => some (.ofClamped i)
    | none => some (.str s)
  | some (.num n) => some (.ofClamped (wholePart n))
  | some (.bool b) => some (.ofClamped b.toInt)
  | other => other

def double : Conversion
  | some (.str s) =>
    match Numeral.read? (Text.trim s.toList) with
    | some (.finite x) => some (.num (.real x))
    | some _ => some .null
    | none => some (.str s)
  | some (.num n) => some (.num (.real n.toBinary64))
  | some (.bool b) => some (.num (.real (.ofWhole b.toInt (by cases b <;> decide))))
  | other => other

def string : Conversion
  | some (.str s) => some (.str s)
  | some v => some (.str v.text)
  | none => none

/-- A text is true when it says `true` in any case, a number when it is one. -/
def bool : Conversion
  | some (.str s) =>
    some (.bool (decide ((Text.trim s.toList).map Char.toLower = "true".toList)))
  | some (.num n) =>
    some (.bool (n.toBinary64.numEq (.ofWhole 1 (by decide))))
  | other => other

def urlenc : Conversion
  | some (.str s) => some (.str (String.ofList (Text.percentEncode s.toList)))
  | other => other

end Conversion

/-- Conversions by name, the one registered last first. -/
structure Registry where
  entries : List (String × Conversion)

namespace Registry

def builtin : Registry :=
  ⟨[("int", Conversion.int), ("double", Conversion.double), ("string", Conversion.string),
    ("bool", Conversion.bool), ("urlenc", Conversion.urlenc)]⟩

def register (name : String) (f : Conversion) (r : Registry) : Registry :=
  ⟨(name, f) :: r.entries⟩

def find? (r : Registry) (name : String) : Option Conversion := r.entries.lookup name

/-- Converts by the conversion of a name. -/
def convert (r : Registry) (name : String) (v : Option Value) : Logged (Option Value) :=
  match r.find? name with
  | some f => pure (f v)
  | none => do
    .tell ⟨.verbose, "Transformer", s!"Unknown transformation '{name}'"⟩
    return v

end Registry
end Rulebook
