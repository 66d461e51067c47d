import Rulebook.Settings.Setting

/-!
# Settings with inputs

A text is a table in braces, before which inputs may be named in a block `let … in`. An entry joins
a path of keys to a value by `=`; nothing separates the entries of a table and the elements of a
list but white space. An input stands for its value, as a value, inside a text, or spread by `..`
into the table or the list around it.
-/

namespace Rulebook.Corn

def isSpace (c : Char) : Bool := c == ' ' || c == '\t' || c == '\n' || c == '\r'

/-- Skips white space and comments, in at most a number of steps. -/
def skipSteps : Nat → List Char → List Char
  | 0, cs => cs
  | n + 1, cs =>
    match cs.dropWhile isSpace with
    | '/' :: '/' :: rest => skipSteps n (rest.dropWhile (· != '\n'))
    | cs => cs

/-- Skips white space and comments. -/
def skip (cs : List Char) : List Char := skipSteps cs.length cs

/-- What the inputs stand for. -/
abbrev Inputs := List (String × Setting)

/-! ## Keys, inputs and texts -/

/-- May the character stand in a key without quotes? -/
def isPlainKeyChar (c : Char) : Bool :=
  !(isSpace c || c ∈ ['.', '=', '"', '\'', '$', '[', ']', '\x7b', '\x7d'])

/-- Reads one key. -/
def readKey? : List Char → Option (String × List Char)
  | '\'' :: rest => do
    let key := rest.takeWhile (· != '\'')
    let '\'' :: after := rest.dropWhile (· != '\'') | none
    if key = [] then none else return (String.ofList key, after)
  | cs =>
    match cs.takeWhile isPlainKeyChar with
    | [] => none
    | key => some (String.ofList key, cs.dropWhile isPlainKeyChar)

/-- Reads a path of keys, in at most a number of steps. -/
def readPath? : Nat → List Char → Option (List String × List Char)
  | 0, _ => none
  | n + 1, cs => do
    let (key, rest) ← readKey? cs
    match rest with
    | '.' :: rest =>
      let (keys, rest) ← readPath? n rest
      return (key :: keys, rest)
    | rest => return ([key], rest)

def isNameChar (c : Char) : Bool := c.isAlphanum || c == '_'

/-- Reads the name of an input after its mark. -/
def readName? : List Char → Option (String × List Char)
  | [] => none
  | c :: rest =>
    if c.isAlpha ∨ c = '_' then
      some (String.ofList (c :: rest.takeWhile isNameChar), rest.dropWhile isNameChar)
    else none

/-- Reads an escape after its backslash. -/
def readEscape? : List Char → Option (Char × List Char)
  | '"' :: rest => some ('"', rest)
  | '\\' :: rest => some ('\\', rest)
  | '$' :: rest => some ('$', rest)
  | 'n' :: rest => some ('\n', rest)
  | 'r' :: rest => some ('\r', rest)
  | 't' :: rest => some ('\t', rest)
  | 'u' :: a :: b :: c :: d :: rest => do
    let n : Nat ← [a, b, c, d].foldlM (fun n c => (hexDigit? c).map (n * 16 + ·)) 0
    if n.isValidChar then some (Char.ofNat n, rest) else none
  | _ => none

/-- Reads a text after its opening quote, in at most a number of steps. -/
def readText? (inputs : Inputs) : Nat → List Char → Option (List Char × List Char)
  | 0, _ => none
  | _ + 1, [] => none
  | _ + 1, '"' :: rest => some ([], rest)
  | n + 1, c :: rest => do
    let (part, rest) ← match c, readName? rest with
      | '\\', _ => (readEscape? rest).map fun (c, rest) => ([c], rest)
      | '$', some (name, rest) => do
        let .text value ← inputs.lookup name | none
        some (value.toList, rest)
      | c, _ => some ([c], rest)
    let (text, rest) ← readText? inputs n rest
    return (part ++ text, rest)

/-! ## Numbers -/

/-- The whole number that digits of a base write. -/
def inBase? (base : Nat) (cs : List Char) : Option Nat :=
  if cs = [] then none
  else cs.foldlM (fun n c => do
    let d ← hexDigit? c
    if d < base then some (n * base + d) else none) 0

/-- Reads a number; a whole one may have a base. -/
def readNumber? (cs : List Char) : Option (Setting × List Char) := do
  let isPart (c : Char) : Bool := c.isAlphanum || c == '_' || c == '.' || c == '+' || c == '-'
  let written := (cs.takeWhile isPart).filter (· != '_')
  let rest := cs.dropWhile isPart
  let (negative, digits) ← match written with
    | '+' :: _ => none
    | written => some (splitSign written)
  let whole := match digits with
    | '0' :: 'x' :: digits => inBase? 16 digits
    | '0' :: 'o' :: digits => inBase? 8 digits
    | '0' :: 'b' :: digits => inBase? 2 digits
    | digits => inBase? 10 digits
  match whole with
  | some n =>
    let i := if negative then -(n : Int) else n
    if -(2 ^ 63) ≤ i ∧ i < 2 ^ 63 then some (.whole i, rest) else none
  | none => do
    if (digits.head?.any Char.isDigit) then
      return (.real (.ofDecimal (← Decimal.read? negative digits)), rest)
    else none

/-! ## Values -/

/-- Gives the setting at a path of keys; nothing but a table may be on the way. -/
def assign? (s : Setting) :
    List String → List (String × Setting) → Option (List (String × Setting))
  | [], _ => none
  | [key], entries => some (Setting.update key s entries)
  | key :: keys, entries => do
    let inside ← match entries.lookup key with
      | none => some []
      | some (.table inside) => some inside
      | some _ => none
    return Setting.update key (.table (← assign? s keys inside)) entries

mutual

/-- Reads a value, in at most a number of steps. -/
def readValue? (inputs : Inputs) : Nat → List Char → Option (Setting × List Char)
  | 0, _ => none
  | n + 1, cs =>
    match cs with
    | '\x7b' :: rest =>
      (readEntries? inputs n [] (skip rest)).map fun (entries, rest) => (.table entries, rest)
    | '[' :: rest => (readElements? inputs n (skip rest)).map fun (es, rest) => (.list es, rest)
    | '"' :: rest =>
      (readText? inputs (rest.length + 1) rest).map fun (t, rest) => (.text (String.ofList t), rest)
    | '$' :: rest => do
      let (name, rest) ← readName? rest
      return (← inputs.lookup name, rest)
    | 't' :: 'r' :: 'u' :: 'e' :: rest => some (.flag true, rest)
    | 'f' :: 'a' :: 'l' :: 's' :: 'e' :: rest => some (.flag false, rest)
    | 'n' :: 'u' :: 'l' :: 'l' :: rest => some (.null, rest)
    | cs => readNumber? cs

def readElements? (inputs : Inputs) : Nat → List Char → Option (List Setting × List Char)
  | 0, _ => none
  | n + 1, cs =>
    match cs with
    | ']' :: rest => some ([], rest)
    | '.' :: '.' :: '$' :: rest => do
      let (name, rest) ← readName? rest
      let .list elements ← inputs.lookup name | none
      let (more, rest) ← readElements? inputs n (skip rest)
      return (elements ++ more, rest)
    | cs => do
      let (s, rest) ← readValue? inputs n cs
      let (more, rest) ← readElements? inputs n (skip rest)
      return (s :: more, rest)

def readEntries? (inputs : Inputs) :
    Nat → List (String × Setting) → List Char → Option (List (String × Setting) × List Char)
  | 0, _, _ => none
  | n + 1, entries, cs =>
    match cs with
    | '\x7d' :: rest => some (entries, rest)
    | '.' :: '.' :: '$' :: rest => do
      let (name, rest) ← readName? rest
      let .table spread ← inputs.lookup name | none
      let entries := spread.foldl (fun entries (key, s) => Setting.update key s entries) entries
      readEntries? inputs n entries (skip rest)
    | cs => do
      let (path, rest) ← readPath? (cs.length + 1) cs
      let '=' :: rest := skip rest | none
      let (s, rest) ← readValue? inputs n (skip rest)
      readEntries? inputs n (← assign? s path entries) (skip rest)

end

/-- Reads the rest of a block of inputs, in at most a number of steps. -/
def readInputs? : Nat → Inputs → List Char → Option (Inputs × List Char)
  | 0, _, _ => none
  | n + 1, inputs, cs =>
    match cs with
    | '\x7d' :: rest => some (inputs, rest)
    | '$' :: rest => do
      let (name, rest) ← readName? rest
      let '=' :: rest := skip rest | none
      let (s, rest) ← readValue? inputs n (skip rest)
      readInputs? n ((name, s) :: inputs) (skip rest)
    | _ => none

/-- The settings that a text gives. -/
def read? (text : String) : Option (List (String × Setting)) := do
  let cs := text.toList
  let (inputs, cs) ← match skip cs with
    | 'l' :: 'e' :: 't' :: rest => do
      let '\x7b' :: rest := skip rest | none
      let (inputs, rest) ← readInputs? (rest.length + 1) [] (skip rest)
      let 'i' :: 'n' :: rest := skip rest | none
      some (inputs, skip rest)
    | cs => some ([], cs)
  match ← readValue? inputs (cs.length + 1) cs with
  | (.table entries, rest) => if (skip rest).isEmpty then some entries else none
  | _ => none

example : (read? "\x7b a.b = 1 c = [ true null ] \x7d").map (fun entries => entries.map Prod.fst) =
    some ["a", "c"] := by decide +kernel

end Rulebook.Corn
