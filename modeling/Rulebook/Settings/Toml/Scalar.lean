import Rulebook.Settings.Setting
import Rulebook.Settings.Toml.Moment
import Rulebook.Settings.Toml.Text

/-!
# Numbers, flags and moments in TOML

A value that is no text, list or table is one word: a flag, a number or a moment. Single
underscores may stand between digits. A whole number fits 64 bits with a sign, and any other number
the range of binary64.
-/

namespace Rulebook.Toml

/-- Digits between which single underscores may stand, without these. -/
def withoutUnderscores? (cs : List Char) : Option (List Char) :=
  let parts := cs.splitOn '_'
  if parts.any List.isEmpty then none else some parts.flatten

/-- A whole number of a base after its mark. -/
def readBased? (base : Nat) (cs : List Char) : Option Setting := do
  let n ← inBase? base (← withoutUnderscores? cs)
  if n < 2 ^ 63 then some (.whole n) else none

/-- Digits of a decimal number that do not start with a needless zero. -/
def wholeDigits? (cs : List Char) : Option (List Char) := do
  let digits ← withoutUnderscores? cs
  if digits.all Char.isDigit ∧ ¬(digits.head? = some '0' ∧ 1 < digits.length) then some digits
  else none

def isExponentMark (c : Char) : Bool := c == 'e' || c == 'E'

/-- The digits after the point, if there is one, and the rest. -/
def readFractionDigits? : List Char → Option (List Char × List Char)
  | '.' :: rest => do
    let fraction ← withoutUnderscores? (rest.takeWhile fun c => !isExponentMark c)
    if fraction.all Char.isDigit then
      some (fraction, rest.dropWhile fun c => !isExponentMark c)
    else none
  | rest => some ([], rest)

/-- The exponent after its mark, if there is one. -/
def readExponentPart? : List Char → Option Int
  | [] => some 0
  | _ :: rest => do
    let (minus, digits) := splitSign rest
    let n : Int ← readDigits? (← withoutUnderscores? digits)
    return if minus then -n else n

/-- A decimal number, whole or not, after its sign. -/
def readDecimal? (negative : Bool) (cs : List Char) : Option Setting := do
  let isMark (c : Char) : Bool := c == '.' || isExponentMark c
  let whole ← wholeDigits? (cs.takeWhile fun c => !isMark c)
  match cs.dropWhile fun c => !isMark c with
  | [] =>
    let n : Int := digitsValue whole
    let i := if negative then -n else n
    if -(2 ^ 63) ≤ i ∧ i < 2 ^ 63 then some (.whole i) else none
  | rest =>
    let (fraction, rest) ← readFractionDigits? rest
    let x ← (Decimal.ofDigits negative whole fraction (← readExponentPart? rest)).toBinary64?
    return .real (.finite x)

/-- The value that a word stands for. -/
def readWord? (word : List Char) : Option Setting :=
  let (negative, magnitude) := splitSign word
  let signed := magnitude.length != word.length
  if word = "true".toList then some (.flag true)
  else if word = "false".toList then some (.flag false)
  else if magnitude = "inf".toList then some (.real (.infinite negative))
  else if magnitude = "nan".toList then some (.real .nan)
  else match word with
    | '0' :: 'x' :: digits => readBased? 16 digits
    | '0' :: 'o' :: digits => readBased? 8 digits
    | '0' :: 'b' :: digits => readBased? 2 digits
    | _ => readDecimal? negative magnitude <|>
      if signed then none else (Moment.read? word).map fun m => .text m.text

/-- May the character stand in a word? -/
def isWordChar (c : Char) : Bool :=
  c.isAlphanum || c == '+' || c == '-' || c == '_' || c == '.' || c == ':'

/-- The word at the front; a date may be followed by a space and a time. -/
def splitWord (cs : List Char) : List Char × List Char :=
  let word := cs.takeWhile isWordChar
  match cs.dropWhile isWordChar with
  | ' ' :: rest =>
    let time := rest.takeWhile isWordChar
    let isDate := (readDate? word).any fun (_, rest) => rest.isEmpty
    if isDate && time.head?.any Char.isDigit then
      (word ++ ' ' :: time, rest.dropWhile isWordChar)
    else (word, ' ' :: rest)
  | rest => (word, rest)

end Rulebook.Toml
