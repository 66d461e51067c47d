import Rulebook.Settings.Setting

/-!
# Spaces, texts and keys in TOML

What is read here ends before the rest of the document, which is given back. A line ends by a line
feed, before which a carriage return may stand; a carriage return stands nowhere else
(`hasOnlyLineEnds`), and the readers rely on that.
-/

namespace Rulebook.Toml

/-! ## Spaces, line ends and comments -/

def isSpace (c : Char) : Bool := c == ' ' || c == '\t'

/-- A character of a line end. -/
def isBreak (c : Char) : Bool := c == '\n' || c == '\r'

/-- Characters that may not stand in a text or a comment as they are. -/
def isControl (c : Char) : Bool := (c.toNat < 0x20 && c != '\t') || c.toNat == 0x7f

/-- Does every carriage return stand before a line feed? -/
def hasOnlyLineEnds : List Char → Bool
  | [] => true
  | '\r' :: '\n' :: rest => hasOnlyLineEnds rest
  | '\r' :: _ => false
  | _ :: rest => hasOnlyLineEnds rest

def skipSpace (cs : List Char) : List Char := cs.dropWhile isSpace

/-- What follows a line end, if one stands here. -/
def afterBreak? : List Char → Option (List Char)
  | '\n' :: rest => some rest
  | '\r' :: '\n' :: rest => some rest
  | _ => none

/-- Skips a comment, if one starts here. -/
def skipComment? : List Char → Option (List Char)
  | '#' :: rest =>
    let comment := rest.takeWhile fun c => !isBreak c
    if comment.any isControl then none else some (rest.dropWhile fun c => !isBreak c)
  | cs => some cs

/-- Skips spaces, comments and line ends, of which there are at most a number. -/
def skipLines? : Nat → List Char → Option (List Char)
  | 0, cs => some cs
  | n + 1, cs => do
    let rest ← skipComment? (skipSpace cs)
    match afterBreak? rest with
    | some rest => skipLines? n rest
    | none => some rest

/-- Skips spaces, comments and line ends. -/
def skipBlank? (cs : List Char) : Option (List Char) := skipLines? cs.length cs

/-- Skips what may follow a statement up to its line end. -/
def endLine? (cs : List Char) : Option (List Char) := do
  let rest ← skipComment? (skipSpace cs)
  if rest.isEmpty then some [] else afterBreak? rest

/-! ## Escapes -/

/-- The number that digits of a base write. -/
def inBase? (base : Nat) (cs : List Char) : Option Nat :=
  cs.foldlM (fun n c => do
    let d ← hexDigit? c
    if d < base then some (n * base + d) else none) 0

/-- Reads the character whose code point a number of hexadecimal digits write. -/
def codePoint? (width : Nat) (cs : List Char) : Option (Char × List Char) := do
  let digits := cs.take width
  if digits.length < width then none
  else
    let n ← inBase? 16 digits
    if n.isValidChar then some (Char.ofNat n, cs.drop width) else none

/-- The character that an escape of one letter stands for. -/
def escapedChar? : Char → Option Char
  | 'b' => some '\x08'
  | 't' => some '\t'
  | 'n' => some '\n'
  | 'f' => some '\x0c'
  | 'r' => some '\r'
  | 'e' => some '\x1b'
  | '"' => some '"'
  | '\\' => some '\\'
  | _ => none

/-- Reads an escape after its backslash. -/
def readEscape? : List Char → Option (Char × List Char)
  | 'x' :: rest => codePoint? 2 rest
  | 'u' :: rest => codePoint? 4 rest
  | 'U' :: rest => codePoint? 8 rest
  | c :: rest => (escapedChar? c).map (·, rest)
  | [] => none

/-! ## Texts -/

/-- Reads a text of one line after its opening quote, in at most a number of steps. -/
def readBasic? : Nat → List Char → Option (List Char × List Char)
  | 0, _ => none
  | n + 1, cs =>
    match cs with
    | [] => none
    | '"' :: rest => some ([], rest)
    | '\\' :: rest => do
      let (c, rest) ← readEscape? rest
      let (text, rest) ← readBasic? n rest
      return (c :: text, rest)
    | c :: rest => do
      if isControl c then none
      else
        let (text, rest) ← readBasic? n rest
        return (c :: text, rest)

/-- Reads a text of several lines after its opening quotes, in at most a number of steps. A
backslash at the end of a line joins the next text to the line. -/
def readBasicLines? : Nat → List Char → Option (List Char × List Char)
  | 0, _ => none
  | n + 1, cs =>
    match cs with
    | [] => none
    | '"' :: '"' :: '"' :: '"' :: '"' :: rest => some (['"', '"'], rest)
    | '"' :: '"' :: '"' :: '"' :: rest => some (['"'], rest)
    | '"' :: '"' :: '"' :: rest => some ([], rest)
    | '\\' :: rest =>
      match afterBreak? (skipSpace rest) with
      | some rest => readBasicLines? n (rest.dropWhile fun c => isSpace c || isBreak c)
      | none => do
        let (c, rest) ← readEscape? rest
        let (text, rest) ← readBasicLines? n rest
        return (c :: text, rest)
    | c :: rest => do
      if isControl c && !isBreak c then none
      else
        let (text, rest) ← readBasicLines? n rest
        return (c :: text, rest)

/-- Reads a text without escapes after its opening quote. -/
def readLiteral? (cs : List Char) : Option (List Char × List Char) :=
  let text := cs.takeWhile (· != '\'')
  match cs.dropWhile (· != '\'') with
  | _ :: rest => if text.any isControl then none else some (text, rest)
  | [] => none

/-- Reads a text of several lines without escapes after its opening quotes. -/
def readLiteralLines? : List Char → Option (List Char × List Char)
  | [] => none
  | '\'' :: '\'' :: '\'' :: '\'' :: '\'' :: rest => some (['\'', '\''], rest)
  | '\'' :: '\'' :: '\'' :: '\'' :: rest => some (['\''], rest)
  | '\'' :: '\'' :: '\'' :: rest => some ([], rest)
  | c :: rest =>
    if isControl c && !isBreak c then none
    else (readLiteralLines? rest).map fun (text, rest) => (c :: text, rest)

/-- A line end right after the opening quotes is no part of the text. -/
def afterOpening (cs : List Char) : List Char := (afterBreak? cs).getD cs

/-- Reads a text of any of the four kinds. -/
def readText? : List Char → Option (List Char × List Char)
  | '"' :: '"' :: '"' :: rest => readBasicLines? (rest.length + 1) (afterOpening rest)
  | '"' :: rest => readBasic? (rest.length + 1) rest
  | '\'' :: '\'' :: '\'' :: rest => readLiteralLines? (afterOpening rest)
  | '\'' :: rest => readLiteral? rest
  | _ => none

/-! ## Keys -/

/-- Reads one part of a key. -/
def readKeyPart? : List Char → Option (String × List Char)
  | '"' :: rest => (readBasic? (rest.length + 1) rest).map fun (t, r) => (String.ofList t, r)
  | '\'' :: rest => (readLiteral? rest).map fun (t, r) => (String.ofList t, r)
  | cs =>
    match cs.takeWhile isKeyChar with
    | [] => none
    | part => some (String.ofList part, cs.dropWhile isKeyChar)

/-- Reads a key of at most a number of parts after the first, and the spaces around it. -/
def readKeyParts? : Nat → List Char → Option (List String × List Char)
  | n, cs => do
    let (part, rest) ← readKeyPart? (skipSpace cs)
    match n, skipSpace rest with
    | n + 1, '.' :: rest =>
      let (parts, rest) ← readKeyParts? n rest
      return (part :: parts, rest)
    | _, rest => return ([part], rest)

/-- How many tables a key may lead through. -/
def depthLimit : Nat := 80

/-- Reads a key that leads through at most a number of tables. -/
def readKey? (tables : List String → Nat) (cs : List Char) :
    Option (List String × List Char) := do
  let (key, rest) ← readKeyParts? cs.length cs
  if tables key ≤ depthLimit then some (key, rest) else none

end Rulebook.Toml
