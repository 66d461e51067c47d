import Rulebook.Settings.Setting
import Rulebook.Text.Letter

/-!
# Settings in object notation

A value is a flag, a number, a character, a text, an option, a list in brackets, a table in braces,
or a record in parentheses, before which a name may stand. The fields of a record have names or
none; with names it is a table, without them a list. Comments and white space stand between the
parts.
-/

namespace Rulebook.Ron

def isSpace (c : Char) : Bool :=
  c == ' ' || c == '\t' || c == '\n' || c == '\r' || c == '\x0b' || c == '\x0c' || c == '\u0085' ||
    c == '\u200e' || c == '\u200f' || c == '\u2028' || c == '\u2029'

/-- What follows a comment of several lines, in which others may stand. -/
def afterComment? : Nat → List Char → Option (List Char)
  | _, [] => none
  | depth, '/' :: '*' :: rest => afterComment? (depth + 1) rest
  | 0, '*' :: '/' :: rest => some rest
  | depth + 1, '*' :: '/' :: rest => afterComment? depth rest
  | depth, _ :: rest => afterComment? depth rest

/-- Skips white space and comments, in at most a number of steps. -/
def skipSteps : Nat → List Char → List Char
  | 0, cs => cs
  | n + 1, cs =>
    match cs.dropWhile isSpace with
    | '/' :: '/' :: rest => skipSteps n (rest.dropWhile (· != '\n'))
    | '/' :: '*' :: rest =>
      match afterComment? 0 rest with
      | some rest => skipSteps n rest
      | none => '/' :: '*' :: rest
    | cs => cs

/-- Skips white space and comments. -/
def skip (cs : List Char) : List Char := skipSteps cs.length cs

/-! ## Names, texts and numbers -/

/-- Reads a name. -/
def readName? : List Char → Option (String × List Char)
  | [] => none
  | c :: rest =>
    if c = '_' ∨ (Text.isLetterOrNumeral c ∧ !c.isDigit) then
      let isPart (c : Char) : Bool := c == '_' || Text.isLetterOrNumeral c
      some (String.ofList (c :: rest.takeWhile isPart), rest.dropWhile isPart)
    else none

/-- Reads an escape after its backslash. -/
def readEscape? : List Char → Option (Char × List Char)
  | '\'' :: rest => some ('\'', rest)
  | '"' :: rest => some ('"', rest)
  | '\\' :: rest => some ('\\', rest)
  | 'n' :: rest => some ('\n', rest)
  | 'r' :: rest => some ('\r', rest)
  | 't' :: rest => some ('\t', rest)
  | '0' :: rest => some ('\x00', rest)
  | 'x' :: a :: b :: rest => do
    let n := (← hexDigit? a) * 16 + (← hexDigit? b)
    return (Char.ofNat n, rest)
  | 'u' :: '\x7b' :: rest => do
    let digits := rest.takeWhile (· != '\x7d')
    let n : Nat ← digits.foldlM (fun n c => (hexDigit? c).map (n * 16 + ·)) 0
    if digits ≠ [] ∧ digits.length ≤ 6 ∧ n.isValidChar then
      some (Char.ofNat n, rest.drop (digits.length + 1))
    else none
  | _ => none

/-- Reads a text after its opening quote, in at most a number of steps. -/
def readText? : Nat → List Char → Option (List Char × List Char)
  | 0, _ => none
  | _ + 1, [] => none
  | _ + 1, '"' :: rest => some ([], rest)
  | n + 1, c :: rest => do
    let (c, rest) ← if c = '\\' then readEscape? rest else some (c, rest)
    let (text, rest) ← readText? n rest
    return (c :: text, rest)

/-- Reads a text without escapes up to a closing mark. -/
def readRaw? (close : List Char) : List Char → Option (List Char × List Char)
  | [] => none
  | c :: rest =>
    if close.isPrefixOf (c :: rest) then some ([], (c :: rest).drop close.length)
    else (readRaw? close rest).map fun (text, rest) => (c :: text, rest)

/-- Reads a number: hexadecimal, octal or binary after a mark, else decimal. -/
def readNumber? (cs : List Char) : Option (Setting × List Char) := do
  let isPart (c : Char) : Bool := c.isAlphanum || c == '_' || c == '.' || c == '+' || c == '-'
  let written := (cs.takeWhile isPart).filter (· != '_')
  let rest := cs.dropWhile isPart
  let (negative, digits) := splitSign written
  let inBase (base : Nat) (cs : List Char) : Option Int := do
    let n : Nat ← cs.foldlM (fun n c => do
      let d ← hexDigit? c
      if d < base then some (n * base + d) else none) 0
    if cs = [] then none else some (if negative then -n else n)
  let whole ← match digits with
    | '0' :: 'x' :: digits => (inBase 16 digits).map some
    | '0' :: 'o' :: digits => (inBase 8 digits).map some
    | '0' :: 'b' :: digits => (inBase 2 digits).map some
    | digits => some (inBase 10 digits)
  match whole with
  | some i => if -(2 ^ 63) ≤ i ∧ i < 2 ^ 64 then some (.whole i, rest) else none
  | none => do
    let n := Numeral.ofDecimal (← Decimal.read? negative digits)
    return (.real n, rest)

/-- What some names mean by themselves. -/
def word? : String → Option Setting
  | "true" => some (.flag true)
  | "false" => some (.flag false)
  | "None" => some .null
  | "inf" => some (.real (.infinite false))
  | "NaN" => some (.real .nan)
  | _ => none

/-! ## Values -/

/-- Does a record with named fields stand here, after its opening? -/
def isNamed (cs : List Char) : Bool :=
  match readName? (skip cs) with
  | some (_, rest) => (skip rest).head? == some ':'
  | none => false

mutual

/-- Reads a value, in at most a number of steps. -/
def readValue? : Nat → List Char → Option (Setting × List Char)
  | 0, _ => none
  | n + 1, cs =>
    match cs with
    | 'r' :: '"' :: rest =>
      (readRaw? ['"'] rest).map fun (t, rest) => (.text (String.ofList t), rest)
    | 'r' :: '#' :: rest =>
      let marks := rest.takeWhile (· == '#')
      match rest.dropWhile (· == '#') with
      | '"' :: rest =>
        (readRaw? ('"' :: '#' :: marks) rest).map fun (t, rest) => (.text (String.ofList t), rest)
      | _ => none
    | '"' :: rest =>
      (readText? (rest.length + 1) rest).map fun (t, rest) => (.text (String.ofList t), rest)
    | '\'' :: '\\' :: rest =>
      match readEscape? rest with
      | some (c, '\'' :: rest) => some (.text (String.singleton c), rest)
      | _ => none
    | '\'' :: c :: '\'' :: rest => some (.text (String.singleton c), rest)
    | '[' :: rest => (readElements? n ']' (skip rest)).map fun (es, rest) => (.list es, rest)
    | '\x7b' :: rest => (readEntries? n [] (skip rest)).map fun (es, rest) => (.table es, rest)
    | '(' :: rest => readRecord? n rest
    | cs =>
      match readName? cs with
      | none => readNumber? cs
      | some (name, rest) =>
        match word? name, skip rest with
        | some s, _ => some (s, rest)
        | none, '(' :: inside =>
          if name = "Some" then do
            let (s, rest) ← readValue? n (skip inside)
            let ')' :: rest := skip rest | none
            return (s, rest)
          else readRecord? n inside
        | none, _ => if name = "Some" then none else some (.null, rest)

/-- Reads a record after its opening. -/
def readRecord? : Nat → List Char → Option (Setting × List Char)
  | 0, _ => none
  | n + 1, cs =>
    match cs with
    | ')' :: rest => some (.null, rest)
    | cs =>
      if isNamed cs then (readFields? n [] (skip cs)).map fun (es, rest) => (.table es, rest)
      else (readElements? n ')' (skip cs)).map fun (es, rest) => (.list es, rest)

def readElements? : Nat → Char → List Char → Option (List Setting × List Char)
  | 0, _, _ => none
  | n + 1, close, cs =>
    if cs.head? = some close then some ([], cs.drop 1)
    else do
      let (s, rest) ← readValue? n cs
      match skip rest with
      | ',' :: rest =>
        let (more, rest) ← readElements? n close (skip rest)
        return (s :: more, rest)
      | c :: rest => if c = close then some ([s], rest) else none
      | [] => none

/-- Reads the entries of a table in braces, whose keys are texts. -/
def readEntries? : Nat → List (String × Setting) → List Char →
    Option (List (String × Setting) × List Char)
  | 0, _, _ => none
  | n + 1, entries, cs =>
    match cs with
    | '\x7d' :: rest => some (entries, rest)
    | cs => do
      let (.text key, rest) ← readValue? n cs | none
      let ':' :: rest := skip rest | none
      let (s, rest) ← readValue? n (skip rest)
      let entries := Setting.update key s entries
      match skip rest with
      | '\x7d' :: rest => return (entries, rest)
      | ',' :: rest => readEntries? n entries (skip rest)
      | _ => none

/-- Reads the named fields of a record. -/
def readFields? : Nat → List (String × Setting) → List Char →
    Option (List (String × Setting) × List Char)
  | 0, _, _ => none
  | n + 1, entries, cs =>
    match cs with
    | ')' :: rest => some (entries, rest)
    | cs => do
      let (key, rest) ← readName? cs
      let ':' :: rest := skip rest | none
      let (s, rest) ← readValue? n (skip rest)
      let entries := Setting.update key s entries
      match skip rest with
      | ')' :: rest => return (entries, rest)
      | ',' :: rest => readFields? n entries (skip rest)
      | _ => none

end

/-- Skips the lines that switch extensions on, of which there are at most a number. -/
def skipExtensions? : Nat → List Char → Option (List Char)
  | n + 1, '#' :: rest => do
    let '!' :: rest := skip rest | none
    let ']' :: rest := rest.dropWhile (· != ']') | none
    skipExtensions? n (skip rest)
  | _, cs => some cs

/-- The settings that a text gives. -/
def read? (text : String) : Option (List (String × Setting)) := do
  let cs := text.toList
  let cs ← skipExtensions? cs.length (skip cs)
  match ← readValue? (2 * cs.length + 2) cs with
  | (.table entries, rest) => if (skip rest).isEmpty then some entries else none
  | _ => none

example : (read? "S(a: 1, b: [x, 'c'],) // done").map (fun entries => entries.map Prod.fst) =
    some ["a", "b"] := by decide +kernel

end Rulebook.Ron
