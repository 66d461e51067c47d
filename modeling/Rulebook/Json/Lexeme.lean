import Rulebook.Number.Numeral

/-!
# The lexemes of a JSON text

`lex` splits a text into brackets, separators, words, numbers and strings, leaving out the white
space between them. Nothing is refused here: where the text breaks, the last lexeme says how, and
nothing after it is read. A string keeps the code units of its `\u` escapes as they are written,
since a lone surrogate matters only to a reader that wants the string's text.
-/

namespace Rulebook.Json

/-- How a text fails to be JSON: it ends too early, or something stands in the wrong place. -/
inductive Break where
  | ends
  | malformed
  deriving DecidableEq

/-- The break at a point where something is missing: nothing follows, or the wrong thing does. -/
def Break.before (rest : List Char) : Break := if rest.isEmpty then .ends else .malformed

/-- A part of a string: a character, or the code unit of a `\u` escape. -/
inductive Piece where
  | char (c : Char)
  | unit (n : Nat)
  deriving DecidableEq

/-- A string as written, and how it breaks if it does. -/
structure StringText where
  pieces : List Piece
  broken : Option Break
  deriving DecidableEq

/-- A number as written: its digits before the point, those after one, and what follows the letter
of an exponent. -/
structure NumberText where
  negative : Bool
  whole : List Char
  fraction : Option (List Char)
  exponent : Option Int
  deriving DecidableEq

inductive Lexeme where
  | openArray
  | closeArray
  | openObject
  | closeObject
  | comma
  | colon
  | null
  | bool (b : Bool)
  | number (n : NumberText)
  | string (s : StringText)
  | brokenNumber (b : Break)
  | brokenWord (b : Break)
  | broken (b : Break)
  deriving DecidableEq

namespace Lexeme

def isBroken : Lexeme → Bool
  | .string s => s.broken.isSome
  | .brokenNumber _ | .brokenWord _ | .broken _ => true
  | _ => false

end Lexeme

/-! ## Strings -/

/-- The code unit that four characters write. -/
def hexUnit? (a b c d : Char) : Option Nat := do
  return (((← hexDigit? a) * 16 + (← hexDigit? b)) * 16 + (← hexDigit? c)) * 16 + (← hexDigit? d)

/-- The character that an escape of one letter stands for. -/
def escapedChar? : Char → Option Char
  | '"' => some '"'
  | '\\' => some '\\'
  | '/' => some '/'
  | 'b' => some '\x08'
  | 'f' => some '\x0c'
  | 'n' => some '\n'
  | 'r' => some '\r'
  | 't' => some '\t'
  | _ => none

/-- The break of a `\u` escape without four digits, which counts bytes to tell whether they are
missing at the end of the text. -/
def breakInUnit (rest : List Char) : Break :=
  if (rest.take 4).foldr (fun c width => c.utf8Size + width) 0 < 4 then .ends else .malformed

/-- Reads a string after its opening quote, and counts the characters read. -/
def scanString : List Char → StringText × Nat
  | [] => (⟨[], some .ends⟩, 0)
  | '"' :: _ => (⟨[], none⟩, 1)
  | '\\' :: 'u' :: a :: b :: c :: d :: rest =>
    match hexUnit? a b c d with
    | some n =>
      let (s, width) := scanString rest
      (⟨.unit n :: s.pieces, s.broken⟩, width + 6)
    | none => (⟨[], some (breakInUnit (a :: b :: c :: d :: rest))⟩, 2)
  | '\\' :: 'u' :: rest => (⟨[], some (breakInUnit rest)⟩, 2)
  | '\\' :: e :: rest =>
    match escapedChar? e with
    | some c =>
      let (s, width) := scanString rest
      (⟨.char c :: s.pieces, s.broken⟩, width + 2)
    | none => (⟨[], some .malformed⟩, 2)
  | ['\\'] => (⟨[], some .ends⟩, 1)
  | c :: rest =>
    if c.toNat < 0x20 then (⟨[], some .malformed⟩, 1)
    else
      let (s, width) := scanString rest
      (⟨.char c :: s.pieces, s.broken⟩, width + 1)

/-- The text of the pieces, in which each high surrogate is followed by a low one. -/
def decodePieces (broken : Option Break) : List Piece → Except Break (List Char)
  | [] => match broken with
    | none => .ok []
    | some b => .error b
  | .char c :: rest => (decodePieces broken rest).map (c :: ·)
  | [.unit n] =>
    if 0xD800 ≤ n ∧ n < 0xE000 then
      .error (if n < 0xDC00 then broken.getD .malformed else .malformed)
    else (decodePieces broken []).map (Char.ofNat n :: ·)
  | .unit n :: .unit m :: rest =>
    if 0xD800 ≤ n ∧ n < 0xDC00 then
      if 0xDC00 ≤ m ∧ m < 0xE000 then
        (decodePieces broken rest).map
          (Char.ofNat (0x10000 + (n - 0xD800) * 0x400 + (m - 0xDC00)) :: ·)
      else .error .malformed
    else if 0xDC00 ≤ n ∧ n < 0xE000 then .error .malformed
    else (decodePieces broken (.unit m :: rest)).map (Char.ofNat n :: ·)
  | .unit n :: .char c :: rest =>
    if 0xD800 ≤ n ∧ n < 0xE000 then .error .malformed
    else (decodePieces broken (.char c :: rest)).map (Char.ofNat n :: ·)

/-- The text of a string. -/
def StringText.text (s : StringText) : Except Break String :=
  (decodePieces s.broken s.pieces).map String.ofList

/-! ## Numbers and words -/

/-- A run of digits that must not be empty, and the rest. -/
def someDigits (cs : List Char) : Except Break (List Char × List Char) :=
  match splitDigits cs with
  | ([], rest) => .error (.before rest)
  | split => .ok split

/-- An optional minus at the front: is it there, and what follows. -/
def splitMinus : List Char → Bool × List Char
  | '-' :: rest => (true, rest)
  | rest => (false, rest)

/-- The digits after a point, if there is one, and the rest. -/
def scanFraction : List Char → Except Break (Option (List Char) × List Char)
  | '.' :: rest => (someDigits rest).map fun (digits, rest) => (some digits, rest)
  | rest => .ok (none, rest)

/-- An exponent, if there is one, and the rest. -/
def scanExponent : List Char → Except Break (Option Int × List Char)
  | [] => .ok (none, [])
  | c :: tail =>
    if c = 'e' ∨ c = 'E' then
      (someDigits (splitSign tail).2).map fun (digits, rest) =>
        (some (if (splitSign tail).1 then -digitsValue digits else digitsValue digits), rest)
    else .ok (none, c :: tail)

/-- Reads a number, and counts the characters read. -/
def scanNumber (cs : List Char) : Except Break (NumberText × Nat) := do
  let (whole, rest) ← someDigits (splitMinus cs).2
  if whole.head? = some '0' ∧ 1 < whole.length then .error .malformed
  else
    let (fraction, rest) ← scanFraction rest
    let (exponent, rest) ← scanExponent rest
    return (⟨(splitMinus cs).1, whole, fraction, exponent⟩, cs.length - rest.length)

/-- How the text fails to start with the word, if it does. -/
def breakInWord : List Char → List Char → Option Break
  | [], _ => none
  | _ :: _, [] => some .ends
  | w :: word, c :: rest => if w = c then breakInWord word rest else some .malformed

/-! ## Texts -/

/-- The lexeme that a text starts with, and how many characters it takes. -/
def firstLexeme (c : Char) (rest : List Char) : Lexeme × Nat :=
  let word (w : String) (l : Lexeme) : Lexeme × Nat :=
    match breakInWord w.toList (c :: rest) with
    | none => (l, w.length)
    | some b => (.brokenWord b, 1)
  match c with
  | '[' => (.openArray, 1)
  | ']' => (.closeArray, 1)
  | '\x7b' => (.openObject, 1)
  | '\x7d' => (.closeObject, 1)
  | ',' => (.comma, 1)
  | ':' => (.colon, 1)
  | '"' =>
    let (s, width) := scanString rest
    (.string s, width + 1)
  | 'n' => word "null" .null
  | 't' => word "true" (.bool true)
  | 'f' => word "false" (.bool false)
  | c =>
    if c = '-' ∨ c.isDigit then
      match scanNumber (c :: rest) with
      | .ok (n, width) => (.number n, width)
      | .error b => (.brokenNumber b, 1)
    else (.broken .malformed, 1)

/-- The white space of JSON. -/
def isSpace (c : Char) : Bool := c == ' ' || c == '\t' || c == '\n' || c == '\r'

/-- The lexemes of a text of which a number of characters belong to the lexeme before. -/
def lexAfter : Nat → List Char → List Lexeme
  | _, [] => []
  | covered + 1, _ :: rest => lexAfter covered rest
  | 0, c :: rest =>
    if isSpace c then lexAfter 0 rest
    else
      let (l, width) := firstLexeme c rest
      if l.isBroken then [l] else l :: lexAfter (width - 1) rest

def lex (cs : List Char) : List Lexeme := lexAfter 0 cs

example : lex "[-1.5e2, \"a\\n\"".toList =
    [.openArray, .number ⟨true, ['1'], some ['5'], some 2⟩, .comma,
      .string ⟨[.char 'a', .char '\n'], none⟩] := by decide +kernel

end Rulebook.Json
