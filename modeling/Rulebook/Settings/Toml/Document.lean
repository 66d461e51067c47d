import Rulebook.Settings.Toml.Node
import Rulebook.Settings.Toml.Scalar

/-!
# TOML documents

`Toml.read?` reads a TOML document into a table of settings, or refuses it. A document is a list of
statements, each a header or a key with its value; a mark of the byte order may stand before it.
Lists and tables in braces may spread over lines, with comments, and end with a comma. They may be
nested to a depth of `containerLimit`, and keys are limited too.
-/

namespace Rulebook.Toml

/-- How deep lists and tables in braces may be nested. -/
def containerLimit : Nat := 81

/-! ## Values -/

mutual

/-- Reads a value, in at most a number of steps; a number of containers may still be opened. -/
def readValue? : Nat → Nat → List Char → Option (Setting × List Char)
  | 0, _, _ => none
  | n + 1, room, cs =>
    match cs with
    | '[' :: rest => do
      let room + 1 := room | none
      let (elements, rest) ← readElements? n room rest
      return (.list elements, rest)
    | '\x7b' :: rest => do
      let room + 1 := room | none
      let (entries, rest) ← readEntries? n room [] rest
      return (.table (settings entries), rest)
    | '"' :: _ | '\'' :: _ => (readText? cs).map fun (t, rest) => (.text (String.ofList t), rest)
    | cs =>
      let (word, rest) := splitWord cs
      (readWord? word).map (·, rest)

/-- Reads the elements of a list up to its end. -/
def readElements? : Nat → Nat → List Char → Option (List Setting × List Char)
  | 0, _, _ => none
  | n + 1, room, cs => do
    match ← skipBlank? cs with
    | ']' :: rest => return ([], rest)
    | cs =>
      let (s, rest) ← readValue? n room cs
      match ← skipBlank? rest with
      | ',' :: rest =>
        let (more, rest) ← readElements? n room rest
        return (s :: more, rest)
      | ']' :: rest => return ([s], rest)
      | _ => none

/-- Reads the entries of a table in braces up to its end. -/
def readEntries? : Nat → Nat → Entries → List Char → Option (Entries × List Char)
  | 0, _, _, _ => none
  | n + 1, room, entries, cs => do
    match ← skipBlank? cs with
    | '\x7d' :: rest => return (entries, rest)
    | cs =>
      let (key, rest) ← readKey? (fun key => key.length - 1) cs
      let '=' :: rest ← skipBlank? rest | none
      let (s, rest) ← readValue? n room (← skipBlank? rest)
      let entries ← entries.assign? key s
      match ← skipBlank? rest with
      | ',' :: rest => readEntries? n room entries rest
      | '\x7d' :: rest => return (entries, rest)
      | _ => none

end

/-! ## Statements -/

/-- A document under way: its entries, and the header that counts. -/
structure Document where
  entries : Entries
  header : List String

/-- Reads one statement. -/
def readStatement? (d : Document) (cs : List Char) : Option (Document × List Char) :=
  match cs with
  | '[' :: '[' :: rest => do
    let (key, rest) ← readKey? List.length rest
    let ']' :: ']' :: rest := rest | none
    return (⟨← d.entries.openNext? key, key⟩, ← endLine? rest)
  | '[' :: rest => do
    let (key, rest) ← readKey? List.length rest
    let ']' :: rest := rest | none
    return (⟨← d.entries.open? key, key⟩, ← endLine? rest)
  | cs => do
    let (key, rest) ← readKey? (fun key => key.length - 1) cs
    let '=' :: rest := rest | none
    let (s, rest) ← readValue? (rest.length + 1) containerLimit (skipSpace rest)
    let entries ← d.entries.under? (fun e => e.assign? key s) d.header
    return (⟨entries, d.header⟩, ← endLine? rest)

/-- Reads statements up to the end of the text, of which there are at most a number. -/
def readStatements? : Nat → Document → List Char → Option Document
  | 0, d, cs => if cs.isEmpty then some d else none
  | n + 1, d, cs => do
    match ← skipBlank? cs with
    | [] => some d
    | cs =>
      let (d, rest) ← readStatement? d cs
      readStatements? n d rest

/-- The table that a document writes. -/
def read? (text : String) : Option (List (String × Setting)) := do
  let cs := match text.toList with
    | '\ufeff' :: rest => rest
    | cs => cs
  if hasOnlyLineEnds cs then
    let d ← readStatements? (cs.length + 1) ⟨[], []⟩ cs
    return settings d.entries
  else none

end Rulebook.Toml
