import Rulebook.Settings.Setting
import Rulebook.Text.Letter

/-!
# Settings in JSON with comments

The texts read here are JSON in which keys may be names without quotes, strings may stand between
single quotes and go on over lines, lists and objects may end with a comma, numbers may be
hexadecimal, carry a plus or miss a digit on one side of the point, and comments may stand anywhere
between the parts.
-/

namespace Rulebook.Json5

def isLineEnd (c : Char) : Bool := c == '\n' || c == '\r' || c == '\u2028' || c == '\u2029'

def isSpace (c : Char) : Bool :=
  let n := c.toNat
  isLineEnd c || n == 9 || n == 0xB || n == 0xC || n == 0x20 || n == 0xA0 || n == 0xFEFF ||
    n == 0x1680 || (0x2000 ≤ n && n ≤ 0x200A) || n == 0x202F || n == 0x205F || n == 0x3000

/-- What follows the end of a comment of several lines. -/
def afterComment? : List Char → Option (List Char)
  | [] => none
  | '*' :: '/' :: rest => some rest
  | _ :: rest => afterComment? rest

/-- Skips white space and comments, in at most a number of steps. -/
def skipSteps : Nat → List Char → List Char
  | 0, cs => cs
  | n + 1, cs =>
    match cs.dropWhile isSpace with
    | '/' :: '/' :: rest => skipSteps n (rest.dropWhile fun c => !isLineEnd c)
    | '/' :: '*' :: rest =>
      match afterComment? rest with
      | some rest => skipSteps n rest
      | none => '/' :: '*' :: rest
    | cs => cs

/-- Skips white space and comments. -/
def skip (cs : List Char) : List Char := skipSteps cs.length cs

/-! ## Strings and keys -/

/-- The number that hexadecimal digits of a width at the front write. -/
def readHex? (width : Nat) (cs : List Char) : Option (Nat × List Char) := do
  let n ← (cs.take width).foldlM (fun n c => (hexDigit? c).map (n * 16 + ·)) 0
  if width ≤ cs.length then some (n, cs.drop width) else none

/-- The character of a code unit, which with the next one makes up a pair if it is the first of
one. -/
def readUnit? (cs : List Char) : Option (Char × List Char) := do
  let (n, rest) ← readHex? 4 cs
  if n.isValidChar then some (Char.ofNat n, rest)
  else match rest with
    | '\\' :: 'u' :: rest => do
      let (m, rest) ← readHex? 4 rest
      if n < 0xDC00 ∧ 0xDC00 ≤ m ∧ m < 0xE000 then
        some (Char.ofNat (0x10000 + (n - 0xD800) * 0x400 + (m - 0xDC00)), rest)
      else none
    | _ => none

/-- Reads an escape after its backslash; a line end there is skipped. -/
def readEscape? : List Char → Option (List Char × List Char)
  | [] => none
  | '\r' :: '\n' :: rest => some ([], rest)
  | 'x' :: rest => do
    let (n, rest) ← readHex? 2 rest
    return ([Char.ofNat n], rest)
  | 'u' :: rest => (readUnit? rest).map fun (c, rest) => ([c], rest)
  | '0' :: rest => if (rest.head?.any Char.isDigit) then none else some (['\x00'], rest)
  | c :: rest =>
    if isLineEnd c then some ([], rest)
    else if c.isDigit then none
    else
      let meant := match c with
        | 'b' => '\x08'
        | 'f' => '\x0c'
        | 'n' => '\n'
        | 'r' => '\r'
        | 't' => '\t'
        | 'v' => '\x0b'
        | c => c
      some ([meant], rest)

/-- Reads a string after its opening quote, in at most a number of steps. -/
def readString? (quote : Char) : Nat → List Char → Option (List Char × List Char)
  | 0, _ => none
  | _ + 1, [] => none
  | n + 1, c :: rest => do
    if c = quote then some ([], rest)
    else if isLineEnd c then none
    else
      let (cs, rest) ← if c = '\\' then readEscape? rest else some ([c], rest)
      let (text, rest) ← readString? quote n rest
      return (cs ++ text, rest)

def isNameStart (c : Char) : Bool :=
  c == '$' || c == '_' || (Text.isLetterOrNumeral c && !c.isDigit)

def isNameChar (c : Char) : Bool :=
  isNameStart c || c.isDigit || c == '\u200c' || c == '\u200d' ||
    Text.inRanges Text.caseIgnorableRanges c.toNat && !c.toNat < 0x80

def readKey? : List Char → Option (String × List Char)
  | [] => none
  | c :: rest =>
    if c = '"' ∨ c = '\'' then
      (readString? c (rest.length + 1) rest).map fun (t, rest) => (String.ofList t, rest)
    else if isNameStart c then
      some (String.ofList (c :: rest.takeWhile isNameChar), rest.dropWhile isNameChar)
    else none

/-! ## Numbers -/

/-- Reads an exponent, if one stands here. -/
def readExponent (cs : List Char) : Int × List Char :=
  match cs with
  | c :: rest =>
    if c = 'e' ∨ c = 'E' then
      let (minus, digits) := splitSign rest
      match splitDigits digits with
      | ([], _) => (0, cs)
      | (digits, rest) =>
        let n : Int := digitsValue digits
        (if minus then -n else n, rest)
    else (0, cs)
  | [] => (0, [])

/-- Reads a decimal number after its sign. -/
def readDecimal? (negative : Bool) (cs : List Char) : Option (Setting × List Char) := do
  let (whole, rest) := match cs with
    | '0' :: rest => (['0'], rest)
    | cs => splitDigits cs
  let (fraction, rest', pointed) := match rest with
    | '.' :: after =>
      let (fraction, after) := splitDigits after
      if whole = [] ∧ fraction = [] then ([], rest, false) else (fraction, after, true)
    | rest => ([], rest, false)
  if whole = [] ∧ fraction = [] then none
  else
    let (exponent, rest) := readExponent rest'
    if !pointed ∧ rest.length = rest'.length then
      let n : Int := digitsValue whole
      let i := if negative then -n else n
      if -(2 ^ 63) ≤ i ∧ i < 2 ^ 63 then some (.whole i, rest) else none
    else
      let x ← (Decimal.ofDigits negative whole fraction exponent).toBinary64?
      return (.real (.finite x), rest)

/-- Reads a number. A hexadecimal one has no sign, and no plus stands before a word. -/
def readNumber? (cs : List Char) : Option (Setting × List Char) := do
  let (negative, rest) := splitSign cs
  match rest with
  | 'I' :: 'n' :: 'f' :: 'i' :: 'n' :: 'i' :: 't' :: 'y' :: rest =>
    if cs.head? = some '+' then none else some (.real (.infinite negative), rest)
  | 'N' :: 'a' :: 'N' :: rest => if cs.head? = some '+' then none else some (.real .nan, rest)
  | '0' :: x :: digits =>
    if x = 'x' ∨ x = 'X' then do
      let written := digits.takeWhile fun c => (hexDigit? c).isSome
      let n : Nat ← written.foldlM (fun n c => (hexDigit? c).map (n * 16 + ·)) 0
      if written ≠ [] ∧ n < 2 ^ 32 ∧ cs.head? = some '0' then
        some (.whole n, digits.dropWhile fun c => (hexDigit? c).isSome)
      else none
    else readDecimal? negative rest
  | rest => readDecimal? negative rest

/-! ## Values -/

mutual

/-- Reads a value, in at most a number of steps. -/
def readValue? : Nat → List Char → Option (Setting × List Char)
  | 0, _ => none
  | n + 1, cs =>
    match cs with
    | 'n' :: 'u' :: 'l' :: 'l' :: rest => some (.null, rest)
    | 't' :: 'r' :: 'u' :: 'e' :: rest => some (.flag true, rest)
    | 'f' :: 'a' :: 'l' :: 's' :: 'e' :: rest => some (.flag false, rest)
    | '"' :: rest | '\'' :: rest =>
      (readString? (cs.headD '"') (rest.length + 1) rest).map fun (t, rest) =>
        (.text (String.ofList t), rest)
    | '[' :: rest => (readElements? n (skip rest)).map fun (es, rest) => (.list es, rest)
    | '\x7b' :: rest => (readMembers? n [] (skip rest)).map fun (es, rest) => (.table es, rest)
    | cs => readNumber? cs

def readElements? : Nat → List Char → Option (List Setting × List Char)
  | 0, _ => none
  | n + 1, cs =>
    match cs with
    | ']' :: rest => some ([], rest)
    | cs => do
      let (s, rest) ← readValue? n cs
      match skip rest with
      | ']' :: rest => return ([s], rest)
      | ',' :: rest =>
        let (more, rest) ← readElements? n (skip rest)
        return (s :: more, rest)
      | _ => none

def readMembers? : Nat → List (String × Setting) → List Char →
    Option (List (String × Setting) × List Char)
  | 0, _, _ => none
  | n + 1, entries, cs =>
    match cs with
    | '\x7d' :: rest => some (entries, rest)
    | cs => do
      let (key, rest) ← readKey? cs
      let ':' :: rest := skip rest | none
      let (s, rest) ← readValue? n (skip rest)
      let entries := Setting.update key s entries
      match skip rest with
      | '\x7d' :: rest => return (entries, rest)
      | ',' :: rest => readMembers? n entries (skip rest)
      | _ => none

end

/-- The settings that a text gives. -/
def read? (text : String) : Option (List (String × Setting)) := do
  let cs := text.toList
  match ← readValue? (cs.length + 1) (skip cs) with
  | (.table entries, rest) => if (skip rest).isEmpty then some entries else none
  | _ => none

end Rulebook.Json5
