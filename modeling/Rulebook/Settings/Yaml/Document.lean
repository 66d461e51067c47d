import Rulebook.Settings.Setting
import Rulebook.Settings.Yaml.Token

/-!
# Settings of a YAML text

A text gives settings when it holds one document that is a table, or none. A plain scalar is
nothing, a flag or a number if it reads as one; tags can ask for one of these, and for a text. The
keys of a table are scalars and differ from each other, and stand for their texts.
-/

namespace Rulebook.Yaml

/-- What a scalar means. A number that is not whole keeps its text. -/
inductive Scalar where
  | null
  | flag (b : Bool)
  | whole (i : Int)
  | real (text : List Char)
  | text (s : String)
  deriving DecidableEq

namespace Scalar

/-- A whole number of 64 bits with a sign. -/
def ofWhole? (i : Int) : Option Scalar :=
  if -(2 ^ 63) ≤ i ∧ i < 2 ^ 63 then some (.whole i) else none

/-- The whole number that digits of a base write after a sign. -/
def readBase? (base : Nat) (cs : List Char) : Option Int := do
  let (negative, digits) := splitSign cs
  let n : Nat ← digits.foldlM (fun n c => do
    let d ← hexDigit? c
    if d < base then some (n * base + d) else none) 0
  if digits = [] then none else return (if negative then -n else n)

/-- Does the text read as a number that is not whole? -/
def isReal (cs : List Char) : Bool :=
  String.ofList cs ∈ [".inf", ".Inf", ".INF", "+.inf", "+.Inf", "+.INF", "-.inf", "-.Inf", "-.INF",
    ".nan", ".NaN", ".NAN"] ||
  (cs.any Char.isDigit && (Numeral.read? cs).isSome)

/-- A whole number, in base 16 or 8 if it begins so; a plus may stand before its sign. -/
def readWhole? (cs : List Char) : Option Scalar :=
  let based := match cs with
    | '0' :: 'x' :: rest => readBase? 16 rest
    | '0' :: 'o' :: rest => readBase? 8 rest
    | '+' :: rest => readInteger? rest
    | _ => none
  match based.bind ofWhole? with
  | some s => some s
  | none => (readInteger? cs).bind ofWhole?

/-- What a plain scalar means. -/
def ofPlain (cs : List Char) : Scalar :=
  match readWhole? cs with
  | some s => s
  | none =>
    let text := String.ofList cs
    if text ∈ ["", "~", "null"] then .null
    else if text = "true" then .flag true
    else if text = "false" then .flag false
    else if isReal cs then .real cs
    else .text text

/-- What a plain scalar means under a tag. -/
def ofTagged (known : Option String) (cs : List Char) : Scalar :=
  let text := String.ofList cs
  match known with
  | some "bool" =>
    if text = "true" then .flag true else if text = "false" then .flag false else .null
  | some "int" => ((readInteger? cs).bind ofWhole?).getD .null
  | some "float" => if isReal cs then .real cs else .null
  | some "null" => .null
  | _ => .text text

def toSetting? : Scalar → Option Setting
  | .null => some .null
  | .flag b => some (.flag b)
  | .whole i => some (.whole i)
  | .real cs => (Numeral.read? cs).map .real
  | .text s => some (.text s)

/-- The text of a key, which is something. -/
def keyText? : Scalar → Option String
  | .null => none
  | .flag b => some (if b then "true" else "false")
  | .whole i => some (toString i)
  | .real cs => some (String.ofList cs)
  | .text s => some s

end Scalar

/-- A node of a document. -/
inductive Node where
  | scalar (s : Scalar)
  | collection (s : Setting)

namespace Node

def null : Node := .scalar .null

def toSetting? : Node → Option Setting
  | .scalar s => s.toSetting?
  | .collection s => some s

/-- The node as a key of a table. -/
def asKey? : Node → Option Scalar
  | .scalar s => some s
  | .collection _ => none

end Node

/-- What is named by anchors. -/
abbrev Anchors := List (String × Node)

/-- A table under way. -/
abbrev Entries := List (Scalar × Setting)

/-- Adds an entry, whose key is new. -/
def addEntry? (entries : Entries) (key value : Node) : Option Entries := do
  let key ← key.asKey?
  let _ ← key.keyText?
  if entries.any (·.1 = key) then none else return entries ++ [(key, ← value.toSetting?)]

/-- The table of entries: keys with one text are one key, whose last entry counts. -/
def tableOf (entries : Entries) : Setting :=
  .table (entries.foldl (fun table (key, value) =>
    Setting.update (key.keyText?.getD "") value table) [])

/-- What is written before a node: its name for aliases, and its tag. -/
structure Properties where
  anchor : Option String := none
  tag : Option (Option String) := none

/-- Reads an anchor and a tag, in any order. -/
def readProperties : List Token → Properties × List Token
  | .anchor a :: .tag t :: rest => (⟨some a, some t⟩, rest)
  | .tag t :: .anchor a :: rest => (⟨some a, some t⟩, rest)
  | .anchor a :: rest => (⟨some a, none⟩, rest)
  | .tag t :: rest => (⟨none, some t⟩, rest)
  | rest => ({}, rest)

/-- Where a node stands, which decides what may be there. -/
inductive Place where
  /-- Between brackets. -/
  | flow
  | block
  /-- An entry of a table in a block, where a list need not be indented. -/
  | entry
  deriving DecidableEq

mutual

/-- Reads a node, in at most a number of steps. -/
def readNode? (place : Place) : Nat → Anchors → List Token → Option (Node × Anchors × List Token)
  | 0, _, _ => none
  | n + 1, anchors, tokens => do
    if let .alias name :: rest := tokens then
      return (← anchors.lookup name, anchors, rest)
    let (properties, tokens) := readProperties tokens
    let name (anchors : Anchors) (node : Node) : Anchors :=
      match properties.anchor with
      | some a => (a, node) :: anchors
      | none => anchors
    let scalar (isPlain : Bool) (text : List Char) : Node :=
      .scalar (if isPlain then
        match properties.tag with
        | some known => .ofTagged known text
        | none => .ofPlain text
      else .text (String.ofList text))
    -- Inside a collection its own name stands for nothing.
    let inside := name anchors .null
    let collect (result : Option (Setting × Anchors × List Token)) := do
      let (s, anchors, rest) ← result
      return (Node.collection s, name anchors (.collection s), rest)
    match tokens, place with
    | .dash :: rest, .entry => collect (readDashes? true n inside [] (.dash :: rest))
    | .scalar isPlain text :: rest, _ =>
      let node := scalar isPlain text
      return (node, name anchors node, rest)
    | .openList :: rest, _ => collect (readList? n inside [] rest)
    | .openTable :: rest, _ => collect (readTable? n inside [] rest)
    | .openBlockList :: rest, .block | .openBlockList :: rest, .entry =>
      collect (readDashes? false n inside [] rest)
    | .openBlockTable :: rest, .block | .openBlockTable :: rest, .entry =>
      collect (readEntries? n inside [] rest)
    | rest, _ =>
      if properties.anchor.isSome ∨ properties.tag.isSome then
        let node := scalar true []
        return (node, name anchors node, rest)
      else none

/-- Reads a node, or nothing where one of the tokens that may follow it stands. -/
def readOptional? (place : Place) (stops : Token → Bool) :
    Nat → Anchors → List Token → Option (Node × Anchors × List Token)
  | 0, _, _ => none
  | n + 1, anchors, tokens =>
    match tokens with
    | [] => none
    | t :: _ => if stops t then some (.null, anchors, tokens) else readNode? place n anchors tokens

/-- Reads the rest of a list in a block, told whether it is indented no deeper than the table it is
in, so that nothing closes it. -/
def readDashes? (bare : Bool) :
    Nat → Anchors → List Setting → List Token → Option (Setting × Anchors × List Token)
  | 0, _, _, _ => none
  | n + 1, anchors, elements, tokens =>
    match tokens with
    | .dash :: rest => do
      let stops (t : Token) : Bool :=
        t = .dash || t = .closeBlock || (bare && (t = .key || t = .value))
      let (node, anchors, rest) ← readOptional? .block stops n anchors rest
      readDashes? bare n anchors (elements ++ [← node.toSetting?]) rest
    | .closeBlock :: rest =>
      if bare then some (.list elements, anchors, tokens) else some (.list elements, anchors, rest)
    | _ => if bare then some (.list elements, anchors, tokens) else none

/-- Reads the rest of a table in a block. -/
def readEntries? :
    Nat → Anchors → Entries → List Token → Option (Setting × Anchors × List Token)
  | 0, _, _, _ => none
  | n + 1, anchors, entries, tokens =>
    let stops (t : Token) : Bool := t = .key || t = .value || t = .closeBlock
    match tokens with
    | .closeBlock :: rest => some (tableOf entries, anchors, rest)
    | .key :: rest => do
      let (key, anchors, rest) ← readOptional? .entry stops n anchors rest
      match rest with
      | .value :: rest => do
        let (value, anchors, rest) ← readOptional? .entry stops n anchors rest
        readEntries? n anchors (← addEntry? entries key value) rest
      | rest => readEntries? n anchors (← addEntry? entries key .null) rest
    | _ => none

/-- Reads the rest of a list in brackets; an entry may be a table of one key. -/
def readList? :
    Nat → Anchors → List Setting → List Token → Option (Setting × Anchors × List Token)
  | 0, _, _, _ => none
  | n + 1, anchors, elements, tokens => do
    let stops (t : Token) : Bool := t = .value || t = .comma || t = .closeList
    if let .closeList :: rest := tokens then return (.list elements, anchors, rest)
    let (element, anchors, rest) ← match tokens with
      | .key :: rest => do
        let (key, anchors, rest) ← readOptional? .flow stops n anchors rest
        let (value, anchors, rest) ← match rest with
          | .value :: rest => readOptional? .flow stops n anchors rest
          | rest => some (.null, anchors, rest)
        pure (tableOf (← addEntry? [] key value), anchors, rest)
      | tokens => do
        let (node, anchors, rest) ← readNode? .flow n anchors tokens
        pure (← node.toSetting?, anchors, rest)
    let elements := elements ++ [element]
    match rest with
    | .comma :: rest => readList? n anchors elements rest
    | .closeList :: rest => return (.list elements, anchors, rest)
    | _ => none

/-- Reads the rest of a table in brackets; a key may stand alone. -/
def readTable? :
    Nat → Anchors → Entries → List Token → Option (Setting × Anchors × List Token)
  | 0, _, _, _ => none
  | n + 1, anchors, entries, tokens => do
    let stops (t : Token) : Bool := t = .value || t = .comma || t = .closeTable
    if let .closeTable :: rest := tokens then return (tableOf entries, anchors, rest)
    let (key, value, anchors, rest) ← match tokens with
      | .key :: rest => do
        let (key, anchors, rest) ← readOptional? .flow stops n anchors rest
        match rest with
        | .value :: rest => do
          let (value, anchors, rest) ← readOptional? .flow stops n anchors rest
          pure (key, value, anchors, rest)
        | rest => pure (key, .null, anchors, rest)
      | tokens => do
        let (key, anchors, rest) ← readNode? .flow n anchors tokens
        pure (key, .null, anchors, rest)
    let entries ← addEntry? entries key value
    match rest with
    | .comma :: rest => readTable? n anchors entries rest
    | .closeTable :: rest => return (tableOf entries, anchors, rest)
    | _ => none

end

/-- The settings of the only document among tokens. -/
def settingsOf? (tokens : List Token) : Option (List (String × Setting)) := do
  match tokens.dropWhile (· = .ends) with
  | [] => return []
  | tokens =>
    let tokens ← match tokens.dropWhile (· = .directive) with
      | .begins :: rest => some rest
      | rest => if rest.length < tokens.length then none else some rest
    let (node, _, rest) ← readNode? .block (3 * tokens.length + 3) [] tokens
    match node, rest.dropWhile (· = .ends) with
    | .collection (.table entries), [] => return entries
    | _, _ => none

/-- The settings that a text gives. -/
def read? (text : String) : Option (List (String × Setting)) :=
  (Token.ofText? text).bind settingsOf?

example : (read? "a:\n- 1\n- x: y\n\"b\": |\n  z\n").map (fun entries => entries.map Prod.fst) =
    some ["a", "b"] := by decide +kernel
example : (read? "a: 1\n---\nb: 2\n").isNone = true := by decide +kernel

end Rulebook.Yaml
