import Rulebook.Number.Numeral

/-!
# The shortest decimal of a binary64 number

`Binary64.shortest` gives the decimal with the fewest significant digits that reads back as the
number, and of those the nearest, a tie going to the even digit. Both neighbours of the number on
each decimal grid are tried, from one significant digit to seventeen; a candidate counts only if
it reads back, so the answer always does as soon as there is one.

`Binary64.text` writes these digits: positionally while the power of ten of the first digit is at
least `-5` and below `16`, always with a point, and otherwise with an exponent that carries its
sign.
-/

namespace Rulebook
namespace Binary64

/-- The magnitude divided by `10 ^ exponent`, as a quotient of whole numbers. -/
def scaledBy (x : Binary64) (exponent : Int) : Nat × Nat :=
  if 0 ≤ exponent then (x.units, unitsPerOne * 10 ^ exponent.toNat)
  else (x.units * 10 ^ (-exponent).toNat, unitsPerOne)

/-- Does `± digits * 10 ^ exponent` read as this number? -/
def readsBack (x : Binary64) (digits : Nat) (exponent : Int) : Bool :=
  match (Decimal.mk x.negative digits exponent).toBinary64? with
  | some y => y.units == x.units
  | none => false

/-- The number of decimal digits, which is one for zero. -/
def digitCount (n : Nat) : Nat := (Nat.toDigits 10 n).length

/-- The power of ten of the first significant digit of a number that is not zero. -/
def leadingExponent (x : Binary64) : Int :=
  let whole := x.units / unitsPerOne
  if 0 < whole then digitCount whole - 1
  else
    -- `units / 2 ^ 1074` has the digits of `units * 5 ^ 1074` after 1074 decimal places
    (digitCount (x.units * 5 ^ oneExponent) : Int) - 1 - oneExponent

/-- The neighbours on the grid of `10 ^ exponent` that read back, the nearer one first taken. -/
def onDecimalGrid? (x : Binary64) (exponent : Int) : Option Nat :=
  let (num, den) := x.scaledBy exponent
  let below := num / den
  let above := below + 1
  match x.readsBack below exponent, x.readsBack above exponent with
  | true, true => some (roundHalfEven num den)
  | true, false => some below
  | false, true => some above
  | false, false => none

/-- All digits of the number, which is a decimal since its denominator is a power of two. -/
def exactDecimal (x : Binary64) : Decimal where
  negative := x.negative
  digits := x.units * 5 ^ oneExponent
  exponent := -oneExponent

/-- The decimal with the fewest significant digits that reads back as the number. -/
def shortest (x : Binary64) : Decimal :=
  let first := x.leadingExponent
  let grids := (List.range 17).map fun (n : Nat) => first - n
  match grids.findSome? fun e => (x.onDecimalGrid? e).map fun d => Decimal.mk x.negative d e with
  | some d => d
  | none => x.exactDecimal

end Binary64

namespace Decimal

/-- Drops the trailing zeros of a run of digits, but never the last digit. -/
def trimZeros (cs : List Char) : List Char :=
  match (cs.reverse.dropWhile (· == '0')).reverse with
  | [] => ['0']
  | cs => cs

/-- The significant digits of a decimal that is not zero, and the power of ten of the first. -/
def significant (d : Decimal) : List Char × Int :=
  let written := Nat.toDigits 10 d.digits
  (trimZeros written, d.exponent + written.length - 1)

/-- Digits of which the first has this power of ten: those before the point and those after. -/
def aroundPoint (digits : List Char) (first : Int) : List Char × List Char :=
  if first < 0 then (['0'], List.replicate (first.natAbs - 1) '0' ++ digits)
  else
    let places := first.toNat + 1
    let whole := digits.take places
    (whole ++ List.replicate (places - whole.length) '0', digits.drop places)

/-- The text of a decimal that is not zero, by the rule of this module. -/
def text (d : Decimal) : List Char :=
  let (digits, first) := d.significant
  let magnitude :=
    if first < -5 ∨ 16 ≤ first then
      let mantissa := match digits with
        | [] => []
        | [c] => [c]
        | c :: rest => c :: '.' :: rest
      let mark := if first < 0 then ['e', '-'] else ['e', '+']
      mantissa ++ mark ++ Nat.toDigits 10 first.natAbs
    else
      let (whole, fraction) := aroundPoint digits first
      whole ++ '.' :: (if fraction.isEmpty then ['0'] else fraction)
  if d.negative then '-' :: magnitude else magnitude

/-- The text of a decimal that is not zero without an exponent, and without a point if it can be. -/
def plainText (d : Decimal) : List Char :=
  let (digits, first) := d.significant
  let (whole, fraction) := aroundPoint digits first
  let magnitude := if fraction.isEmpty then whole else whole ++ '.' :: fraction
  if d.negative then '-' :: magnitude else magnitude

end Decimal

/-- The number in decimal, as JSON text. -/
def Binary64.text (x : Binary64) : List Char :=
  if x.units = 0 then (if x.negative then "-0.0".toList else "0.0".toList)
  else x.shortest.text

/-- The number in decimal without an exponent, infinities and the lack of a number as words. -/
def Numeral.plainText : Numeral → List Char
  | .finite x =>
    if x.units = 0 then (if x.negative then "-0".toList else "0".toList)
    else x.shortest.plainText
  | .infinite negative => if negative then "-inf".toList else "inf".toList
  | .nan => "NaN".toList

end Rulebook
