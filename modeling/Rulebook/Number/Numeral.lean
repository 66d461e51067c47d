import Rulebook.Number.Binary64

/-!
# Numbers written in decimal

A `Decimal` is a signed whole number of digits times a power of ten. Its binary64 value is the
nearest one; the two clamps in `Decimal.toBinary64?` only spare the work of forming a power of
ten that cannot matter.

`Numeral.read?` reads a whole text as a number: an optional sign, then either digits with at most
one point and an optional exponent, at least one digit standing before the exponent, or one of the
words `inf`, `infinity` and `nan` in any case. `readInteger?` and `readIndex?` read whole numbers
with an optional sign, of which an index admits only `+`.
-/

namespace Rulebook

/-- The number `± digits * 10 ^ exponent`. -/
structure Decimal where
  negative : Bool
  digits : Nat
  exponent : Int
  deriving DecidableEq

/-- The longest run of ASCII digits at the front, and the rest. -/
def splitDigits (cs : List Char) : List Char × List Char :=
  (cs.takeWhile Char.isDigit, cs.dropWhile Char.isDigit)

/-- The number that a run of ASCII digits denotes. -/
def digitsValue (cs : List Char) : Nat := Nat.ofDigitChars 10 cs 0

/-- The value of a hexadecimal digit. -/
def hexDigit? (c : Char) : Option Nat :=
  if c.isDigit then some (c.toNat - '0'.toNat)
  else if 'a' ≤ c ∧ c ≤ 'f' then some (c.toNat - 'a'.toNat + 10)
  else if 'A' ≤ c ∧ c ≤ 'F' then some (c.toNat - 'A'.toNat + 10)
  else none

/-- An optional sign at the front: is it a minus, and what follows. -/
def splitSign : List Char → Bool × List Char
  | '-' :: rest => (true, rest)
  | '+' :: rest => (false, rest)
  | rest => (false, rest)

/-- The text as one or more digits and nothing else. -/
def readDigits? (cs : List Char) : Option Nat :=
  if cs ≠ [] ∧ cs.all Char.isDigit then some (digitsValue cs) else none

/-- The text as a whole number with an optional sign. -/
def readInteger? (cs : List Char) : Option Int :=
  (readDigits? (splitSign cs).2).map fun n => if (splitSign cs).1 then -(n : Int) else n

/-- The text as a position in a list: digits, before which one `+` may stand, below `2 ^ 64`. -/
def readIndex? (cs : List Char) : Option Nat :=
  let digits := match cs with
    | '+' :: rest => rest
    | cs => cs
  (readDigits? digits).filter (· < 2 ^ 64)

namespace Decimal

/-- The decimal whose digits are `whole`, then a point, then `fraction`. -/
def ofDigits (negative : Bool) (whole fraction : List Char) (exponent : Int) : Decimal where
  negative
  digits := digitsValue (whole ++ fraction)
  exponent := exponent - fraction.length

/-- The nearest binary64 number, or `none` when that is out of range. -/
def toBinary64? (d : Decimal) : Option Binary64 :=
  if d.digits = 0 then some (.zero d.negative)
  else if 400 < d.exponent then none
  else if d.exponent < -(1100 + d.digits.log2) then some (.zero d.negative)
  else if 0 ≤ d.exponent then
    Binary64.ofRatio? d.negative (d.digits * 10 ^ d.exponent.toNat) 1 Nat.one_pos
  else
    Binary64.ofRatio? d.negative d.digits (10 ^ (-d.exponent).toNat) (Nat.pow_pos (by decide))

/-- The exponent part that may end a decimal. -/
def readExponent? : List Char → Option Int
  | [] => some 0
  | c :: rest => if c = 'e' ∨ c = 'E' then readInteger? rest else none

/-- The text after the sign as digits with at most one point and an optional exponent. -/
def read? (negative : Bool) (cs : List Char) : Option Decimal :=
  let (whole, rest) := splitDigits cs
  let (fraction, rest) := match rest with
    | '.' :: rest => splitDigits rest
    | rest => ([], rest)
  if whole = [] ∧ fraction = [] then none
  else (readExponent? rest).map (ofDigits negative whole fraction)

end Decimal

/-- What a text that reads as a number denotes. -/
inductive Numeral where
  | finite (x : Binary64)
  | infinite (negative : Bool)
  | nan

namespace Numeral

/-- A decimal out of range denotes an infinity. -/
def ofDecimal (d : Decimal) : Numeral :=
  match d.toBinary64? with
  | some x => .finite x
  | none => .infinite d.negative

/-- The whole text as a number. -/
def read? (cs : List Char) : Option Numeral :=
  let (negative, rest) := splitSign cs
  let word := rest.map Char.toLower
  if word = "inf".toList ∨ word = "infinity".toList then some (.infinite negative)
  else if word = "nan".toList then some .nan
  else (Decimal.read? negative rest).map ofDecimal

def finite? : Numeral → Option Binary64
  | .finite x => some x
  | _ => none

end Numeral

example : readInteger? "-007".toList = some (-7) := by decide
example : readIndex? "+01".toList = some 1 := by decide
example : readIndex? "-0".toList = none := by decide
example : Decimal.read? false "1.50e2".toList = some ⟨false, 150, 0⟩ := by decide
example : Decimal.read? false ".".toList = none := by decide

end Rulebook
