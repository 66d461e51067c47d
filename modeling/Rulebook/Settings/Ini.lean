import Rulebook.Settings.Setting
import Rulebook.Text.Blank

/-!
# Settings in sections

A text is made of sections, each with a name in brackets, and of keys with values, joined by `=` or
`:`; what stands before the first section belongs to none. All values are texts. A comment takes a
whole line. Characters may be escaped by a backslash, and parts of a value may stand between quotes.

Of several sections with one name, and of several keys in one section, the last one counts.
-/

namespace Rulebook.Ini

/-- Reads an escape after its backslash; a line end there is skipped. -/
def readEscape? : List Char → Option (List Char × List Char)
  | [] => none
  | '0' :: rest => some (['\x00'], rest)
  | 'a' :: rest => some (['\x07'], rest)
  | 'b' :: rest => some (['\x08'], rest)
  | 't' :: rest => some (['\t'], rest)
  | 'r' :: rest => some (['\r'], rest)
  | 'n' :: rest => some (['\n'], rest)
  | '\n' :: rest => some ([], rest)
  | 'x' :: rest => do
    let n ← (rest.take 4).foldlM (fun n c => (hexDigit? c).map (n * 16 + ·)) 0
    if 4 ≤ rest.length ∧ n.isValidChar then some ([Char.ofNat n], rest.drop 4) else none
  | c :: rest => some ([c], rest)

/-- Reads up to a character at which to stop, in at most a number of steps. The end of the text is
reached only where that is allowed. -/
def readUntil? (stop : Char → Bool) (mayEnd : Bool) :
    Nat → List Char → Option (List Char × List Char)
  | 0, _ => none
  | _ + 1, [] => if mayEnd then some ([], []) else none
  | n + 1, c :: rest => do
    if stop c then some ([], c :: rest)
    else
      let (cs, rest) ← if c = '\\' then readEscape? rest else some ([c], rest)
      let (text, rest) ← readUntil? stop mayEnd n rest
      return (cs ++ text, rest)

/-- Reads up to a character and past it. -/
def readPast? (close : Char) (cs : List Char) : Option (List Char × List Char) := do
  let (text, rest) ← readUntil? (· == close) false (cs.length + 1) cs
  return (text, rest.drop 1)

/-- Reads up to the end of the line. -/
def readLine? (cs : List Char) : Option (List Char × List Char) :=
  readUntil? (fun c => c == '\n' || c == '\r') true (cs.length + 1) cs

def isQuote (c : Char) : Bool := c == '"' || c == '\''

/-- Reads the parts of a value, of which there are at most a number: parts between quotes, and what
follows them on the line. -/
def readParts? : Nat → List Char → Option (List Char × List Char)
  | 0, _ => none
  | _ + 1, [] => some ([], [])
  | n + 1, c :: rest => do
    if isQuote c then
      let (inside, rest) ← readPast? c rest
      let (more, rest) ← readParts? n rest
      return (inside ++ more, rest)
    else
      let (text, rest) ← readLine? (c :: rest)
      return ((text.reverse.dropWhile Text.isBlank).reverse, rest)

/-- Reads a value after the character that joins it to its key. -/
def readValue? (cs : List Char) : Option (List Char × List Char) :=
  let isSpace (c : Char) : Bool := Text.isBlank c && c != '\n' && c != '\r'
  let cs := cs.dropWhile isSpace
  if cs.head?.any isQuote then readParts? (cs.length + 1) cs
  else (readLine? cs).map fun (text, rest) => (Text.trim text, rest)

/-- What has been read: the entries before the first section, and the sections. -/
structure Document where
  entries : List (String × Setting) := []
  sections : List (String × List (String × Setting)) := []

/-- Opens a section. -/
def Document.openSection (d : Document) (name : String) : Document :=
  { d with sections := d.sections ++ [(name, [])] }

/-- Gives a key a value in the section that is open. -/
def Document.assign (d : Document) (key value : String) : Document :=
  match d.sections.getLast? with
  | none => { d with entries := Setting.update key (.text value) d.entries }
  | some (name, entries) =>
    { d with
      sections := d.sections.dropLast ++ [(name, Setting.update key (.text value) entries)] }

/-- Reads the rest of a document in at most a number of steps, told whether a line starts here. -/
def readRest? : Nat → Document → Bool → List Char → Option Document
  | 0, _, _, _ => none
  | _ + 1, d, _, [] => some d
  | n + 1, d, atStart, c :: rest => do
    if Text.isBlank c then readRest? n d (c == '\n') rest
    else if c = ';' ∨ c = '#' then
      if atStart then readRest? n d false (rest.dropWhile (· != '\n')) else none
    else if c = '[' then
      let (name, rest) ← readPast? ']' rest
      readRest? n (d.openSection (String.ofList (Text.trim name))) false rest
    else
      let isJoin (c : Char) : Bool := c == '=' || c == ':'
      let (key, rest) ← readUntil? isJoin false (rest.length + 2) (c :: rest)
      let key := Text.trim key
      if key = [] then none
      else
        let (value, rest) ← readValue? (rest.drop 1)
        readRest? n (d.assign (String.ofList key) (String.ofList value)) false rest

/-- The settings that a text gives. -/
def read? (text : String) : Option (List (String × Setting)) := do
  let d ← readRest? (text.length + 1) {} true text.toList
  return d.sections.foldl (fun entries (name, inside) =>
    Setting.update name (.table inside) entries) d.entries

example : (read? "a = 1\n[s]\nb: \"x\" \n").map (fun entries => entries.map Prod.fst) =
    some ["a", "s"] := by decide +kernel

end Rulebook.Ini
