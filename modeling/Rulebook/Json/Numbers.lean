import Rulebook.Json.Lexeme
import Rulebook.Json.Value

/-!
# The numbers of a JSON text

A whole number of 64 bits, written without point and exponent, is read exactly. Any other number is
read by steps that each round: its digits are taken for a whole number as long as 64 bits hold it
(`Significand`), that number is rounded, and then it is multiplied by a power of ten or divided by
powers of ten, of which binary64 has those up to `10 ^ 308`.

So what is read may lie beside the nearest binary64 number. It is the nearest one if the digits make
a number up to `2 ^ 53` and the power of ten is at most `10 ^ 22`, as then only the last step rounds
(`NumberText.real?_eq_toBinary64?`).
-/

namespace Rulebook.Json

/-- A whole number of 64 bits. -/
structure Significand where
  value : Nat
  range : value < 2 ^ 64

namespace Significand

def zero : Significand := ⟨0, by decide⟩

/-- Puts a digit after the number, if 64 bits hold the result. -/
def push? (s : Significand) (digit : Char) : Option Significand :=
  let value := 10 * s.value + (digit.toNat - '0'.toNat)
  if h : value < 2 ^ 64 then some ⟨value, h⟩ else none

theorem push?_of_lt {s : Significand} {digit : Char}
    (h : 10 * s.value + (digit.toNat - '0'.toNat) < 2 ^ 64) :
    ∃ t : Significand,
      s.push? digit = some t ∧ t.value = 10 * s.value + (digit.toNat - '0'.toNat) :=
  ⟨⟨_, h⟩, dif_pos h, rfl⟩

/-- Puts digits after the number as long as 64 bits hold it, and counts those that are left. -/
def pushAll (s : Significand) : List Char → Significand × Nat
  | [] => (s, 0)
  | c :: rest => (s.push? c).elim (s, rest.length + 1) fun t => t.pushAll rest

def toBinary64 (s : Significand) : Binary64 := .ofWhole s.value s.range

end Significand

/-- The nearest binary64 number to a power of ten, if it is in range. -/
def tenPower? (n : Nat) : Option Binary64 := Binary64.ofRatio? false (10 ^ n) 1 Nat.one_pos

/-- Multiplies by `10 ^ n`; only zero has a product with a power that is out of range. -/
def scaleUp? (x : Binary64) (n : Nat) : Option Binary64 :=
  if n ≤ 308 then (tenPower? n).bind x.mul?
  else if x.units = 0 then some x
  else none

/-- Divides by `10 ^ n`: by `10 ^ 308` as long as more is left, unless zero is reached before. -/
def scaleDown? (x : Binary64) (n : Nat) : Option Binary64 :=
  if n ≤ 308 then (tenPower? n).bind x.div?
  else if x.units = 0 then some x
  else ((tenPower? 308).bind x.div?).bind fun y => scaleDown? y (n - 308)
termination_by n

/-- Multiplies by `10 ^ exponent`, if the result is in range. -/
def scale? (x : Binary64) (exponent : Int) : Option Binary64 :=
  if 0 ≤ exponent then scaleUp? x exponent.toNat else scaleDown? x (-exponent).toNat

namespace NumberText

/-- The digits that count, and the power of ten that they are to be multiplied by. The digits of the
whole part that are left count as zeros, those of the fraction not at all. -/
def significand (n : NumberText) : Significand × Int :=
  let fraction := n.fraction.getD []
  let (s, left) := Significand.zero.pushAll n.whole
  let (s, dropped) := s.pushAll fraction
  (s, left - (fraction.length - dropped) + n.exponent.getD 0)

/-- The number as one of binary64, unless it is out of range. -/
def real? (n : NumberText) : Option Binary64 :=
  let (s, exponent) := n.significand
  (scale? s.toBinary64 exponent).map fun x => { x with negative := n.negative }

/-- The whole number of 64 bits that is written without point and exponent; zero with a minus is
none. -/
def whole? (n : NumberText) : Option Number :=
  let (s, exponent) := n.significand
  if n.fraction.isSome ∨ n.exponent.isSome ∨ exponent ≠ 0 ∨ n.negative ∧ s.value = 0 then none
  else Number.ofInt? (if n.negative then -s.value else s.value)

/-- The number written, unless it is out of range. -/
def number? (n : NumberText) : Option Number := n.whole? <|> n.real?.map .real

end NumberText
end Rulebook.Json
