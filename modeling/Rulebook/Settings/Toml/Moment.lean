import Rulebook.Number.Numeral

/-!
# Dates and times in TOML

A moment is a date, a time of day, or both and then perhaps a shift of the time zone. It is kept as
a text in one spelling (`Moment.text`): capital letters, nine digits at most after the seconds
without the zeros at their end, and no negative zero for the shift.
-/

namespace Rulebook.Toml

structure Date where
  year : Nat
  month : Nat
  day : Nat
  deriving DecidableEq

namespace Date

def isLeapYear (year : Nat) : Bool := year % 4 == 0 && (year % 100 != 0 || year % 400 == 0)

def daysInMonth (year month : Nat) : Nat :=
  if month = 2 then if isLeapYear year then 29 else 28
  else if month ∈ [4, 6, 9, 11] then 30
  else 31

/-- Is there such a day in the calendar? -/
def isValid (d : Date) : Bool :=
  1 ≤ d.month && d.month ≤ 12 && 1 ≤ d.day && d.day ≤ daysInMonth d.year d.month

end Date

structure TimeOfDay where
  hour : Nat
  minute : Nat
  second : Option Nat
  /-- The digits after the seconds. -/
  fraction : Option (List Char)
  deriving DecidableEq

/-- A minute may have a second more than usual. -/
def TimeOfDay.isValid (t : TimeOfDay) : Bool :=
  t.hour ≤ 23 && t.minute ≤ 59 && t.second.all (· ≤ 60)

/-- The shift of a time zone. -/
inductive Shift where
  | zero
  | minutes (negative : Bool) (total : Nat)
  deriving DecidableEq

inductive Moment where
  | date (d : Date)
  | time (t : TimeOfDay)
  | both (d : Date) (t : TimeOfDay) (shift : Option Shift)
  deriving DecidableEq

/-! ## Reading -/

/-- The number that a number of digits at the front write. -/
def readFixed? (width : Nat) (cs : List Char) : Option (Nat × List Char) := do
  let (digits, rest) := splitDigits cs
  if digits.length = width then some (digitsValue digits, rest) else none

/-- What follows a character. -/
def after? (c : Char) : List Char → Option (List Char)
  | d :: rest => if c = d then some rest else none
  | [] => none

def readDate? (cs : List Char) : Option (Date × List Char) := do
  let (year, rest) ← readFixed? 4 cs
  let (month, rest) ← readFixed? 2 (← after? '-' rest)
  let (day, rest) ← readFixed? 2 (← after? '-' rest)
  let date : Date := ⟨year, month, day⟩
  if date.isValid then some (date, rest) else none

/-- Reads the digits after the seconds. -/
def readFraction? : List Char → Option (Option (List Char) × List Char)
  | '.' :: rest =>
    match splitDigits rest with
    | ([], _) => none
    | (digits, rest) => some (some digits, rest)
  | rest => some (none, rest)

/-- Reads a time of day, in which the seconds may be missing. -/
def readTime? (cs : List Char) : Option (TimeOfDay × List Char) := do
  let (hour, rest) ← readFixed? 2 cs
  let (minute, rest) ← readFixed? 2 (← after? ':' rest)
  let (time, rest) ← match rest with
    | ':' :: rest => do
      let (second, rest) ← readFixed? 2 rest
      let (fraction, rest) ← readFraction? rest
      some (TimeOfDay.mk hour minute (some second) fraction, rest)
    | rest => some (TimeOfDay.mk hour minute none none, rest)
  if time.isValid then some (time, rest) else none

def readShift? : List Char → Option (Shift × List Char)
  | [] => none
  | c :: rest => do
    if c = 'Z' ∨ c = 'z' then some (.zero, rest)
    else if c = '+' ∨ c = '-' then
      let (hours, rest) ← readFixed? 2 rest
      let (minutes, rest) ← readFixed? 2 (← after? ':' rest)
      if hours ≤ 23 ∧ minutes ≤ 59 then some (.minutes (c == '-') (hours * 60 + minutes), rest)
      else none
    else none

/-- May the character stand between a date and a time? -/
def isSeparator (c : Char) : Bool := c == 'T' || c == 't' || c == ' '

/-- Reads what follows a date. -/
def readAfterDate? (d : Date) : List Char → Option Moment
  | [] => some (.date d)
  | c :: rest => do
    if isSeparator c then
      let (time, rest) ← readTime? rest
      if rest.isEmpty then some (.both d time none)
      else
        let (shift, rest) ← readShift? rest
        if rest.isEmpty then some (.both d time (some shift)) else none
    else none

/-- The moment that a whole text writes. -/
def Moment.read? (cs : List Char) : Option Moment :=
  match readTime? cs with
  | some (t, rest) => if rest.isEmpty then some (.time t) else none
  | none => do
    let (d, rest) ← readDate? cs
    readAfterDate? d rest

/-! ## Writing -/

/-- A number in at least a number of digits. -/
def padded (width n : Nat) : List Char :=
  let digits := Nat.toDigits 10 n
  List.replicate (width - digits.length) '0' ++ digits

def Date.chars (d : Date) : List Char :=
  padded 4 d.year ++ '-' :: padded 2 d.month ++ '-' :: padded 2 d.day

/-- The digits after the seconds, at most nine, without zeros at the end but never none. -/
def fractionChars (digits : List Char) : List Char :=
  match ((digits.take 9).reverse.dropWhile (· == '0')).reverse with
  | [] => ['0']
  | digits => digits

def TimeOfDay.chars (t : TimeOfDay) : List Char :=
  padded 2 t.hour ++ ':' :: padded 2 t.minute ++ t.second.elim [] (fun s => ':' :: padded 2 s) ++
    t.fraction.elim [] fun digits => '.' :: fractionChars digits

def Shift.chars : Shift → List Char
  | .zero => ['Z']
  | .minutes negative total =>
    (if negative ∧ total ≠ 0 then '-' else '+') :: padded 2 (total / 60) ++
      ':' :: padded 2 (total % 60)

def Moment.chars : Moment → List Char
  | .date d => d.chars
  | .time t => t.chars
  | .both d t shift => d.chars ++ 'T' :: t.chars ++ shift.elim [] Shift.chars

/-- The moment in writing. -/
def Moment.text (m : Moment) : String := String.ofList m.chars

example : (Moment.read? "1979-05-27 07:32:00.10z".toList).map Moment.text =
    some "1979-05-27T07:32:00.1Z" := by decide +kernel
example : Moment.read? "2023-02-29".toList = none := by decide +kernel

end Rulebook.Toml
