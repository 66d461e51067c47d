import Rulebook.Settings.Setting

/-!
# Layers of settings

Layers are laid over each other in order: a table is merged key by key with the table under it, and
anything else takes the place of what was there. A layer gives settings at paths. A path leads by
keys through tables and by positions through lists, and makes both where there are none. A position
may be counted from the end; where it lies outside of a list, the list grows to reach it.
-/

namespace Rulebook

/-! ## Paths -/

/-- One step of a path. -/
inductive Step where
  | key (name : String)
  /-- A position in a list, a negative one being counted from the end. -/
  | index (i : Int)
  deriving DecidableEq

/-- The key at the front of a text. -/
def readName? (cs : List Char) : Option (String × List Char) :=
  match cs.takeWhile isKeyChar with
  | [] => none
  | name => some (String.ofList name, cs.dropWhile isKeyChar)

/-- Reads a position after its opening bracket. -/
def readPosition? (cs : List Char) : Option (Int × List Char) := do
  let isSpace (c : Char) : Bool := c == ' ' || c == '\t'
  let (minus, cs) := match cs.dropWhile isSpace with
    | '-' :: rest => (true, rest)
    | cs => (false, cs)
  let (digits, rest) := splitDigits cs
  let n : Int ← readDigits? digits
  let i := if minus then -n else n
  let ']' :: rest := rest.dropWhile isSpace | none
  if -(2 ^ 63) ≤ i ∧ i < 2 ^ 63 then some (i, rest) else none

/-- Reads the steps of a path after its first key, of which there are at most a number. -/
def readSteps? : Nat → List Char → Option (List Step)
  | _, [] => some []
  | n + 1, '.' :: rest => do
    let (name, rest) ← readName? rest
    return .key name :: (← readSteps? n rest)
  | n + 1, '[' :: rest => do
    let (i, rest) ← readPosition? rest
    return .index i :: (← readSteps? n rest)
  | _, _ => none

/-- The path that a text writes, if it writes one. -/
def readPath? (cs : List Char) : Option (List Step) := do
  let (name, rest) ← readName? cs
  return .key name :: (← readSteps? rest.length rest)

/-- The path of a key at the root, which is the key itself where it does not write one. -/
def keyPath (key : String) : List Step := (readPath? key.toList).getD [.key key]

example : keyPath "a.b[-1]" = [.key "a", .key "b", .index (-1)] := by decide +kernel
example : keyPath "a..b" = [.key "a..b"] := by decide +kernel

namespace Setting

/-! ## Laying settings over others -/

mutual

/-- A setting laid over the entries of the one under it. -/
def layOver (under : List (String × Setting)) : Setting → Setting
  | .table entries => .table (layEntries under entries)
  | s => s

def layEntries (under : List (String × Setting)) :
    List (String × Setting) → List (String × Setting)
  | [] => under
  | (key, s) :: rest =>
    layEntries (update key (layOver ((under.lookup key).elim [] Setting.entries) s) under) rest

end

/-- A list that has an element at a position, and that position counted from the front. -/
def reaching (i : Int) (elements : List Setting) : List Setting × Nat :=
  let place := if 0 ≤ i then i else elements.length + i
  let before := List.replicate (-place).toNat null
  let after := List.replicate (place + 1 - elements.length).toNat null
  (before ++ elements ++ after, place.toNat)

/-- Lays a setting over what is at the end of a path. -/
def put (root : Setting) : List Step → Setting → Setting
  | [], s => layOver root.entries s
  | .key key :: path, s =>
    .table (update key (put ((root.entries.lookup key).getD default) path s) root.entries)
  | .index i :: path, s =>
    let (elements, place) := reaching i root.elements
    .list (elements.set place (put (elements.getD place default) path s))

example : reaching (-3) [flag true, flag false] = ([null, flag true, flag false], 0) := by rfl

end Setting

/-- Settings at paths, to be laid over others in this order. -/
abbrev Layer := List (List Step × Setting)

/-- A layer laid over settings. -/
def Layer.over (layer : Layer) (under : Setting) : Setting :=
  layer.foldl (fun root (path, s) => root.put path s) under

/-- Layers laid over each other, the first one lowest. -/
def layAll (layers : List Layer) : Setting := layers.foldl (fun root l => l.over root) (.table [])

/-- The layer of a table, each of whose keys may be a path. -/
def Layer.ofEntries (entries : List (String × Setting)) : Layer :=
  entries.map fun (key, s) => (keyPath key, s)

/-! ## The environment -/

/-- The setting that a text in the environment gives: a flag in any case, a whole number, a number
or the text itself. -/
def Setting.ofEnvironment (text : String) : Setting :=
  let cs := text.toList
  let word := Text.lowercase cs
  if word = "true".toList then .flag true
  else if word = "false".toList then .flag false
  else match (readInteger? cs).filter fun i => decide (-(2 ^ 63) ≤ i ∧ i < 2 ^ 63) with
    | some i => .whole i
    | none => match Numeral.read? cs with
      | some n => .real n
      | none => .text text

/-- What follows the start of a text, if it starts so. -/
def dropStart? : List Char → List Char → Option (List Char)
  | [], cs => some cs
  | _ :: _, [] => none
  | p :: ps, c :: cs => if p = c then dropStart? ps cs else none

/-- The text with a point for each two underscores. -/
def pointed : List Char → List Char
  | '_' :: '_' :: rest => '.' :: pointed rest
  | c :: rest => c :: pointed rest
  | [] => []

/-- The layer of the variables whose names start with a word and an underscore, in any case. -/
def Layer.ofEnvironment (word : String) (environment : List (String × String)) : Layer :=
  environment.filterMap fun (name, text) => do
    let key ← dropStart? (word ++ "_").toList (Text.lowercase name.toList)
    return (keyPath (String.ofList (pointed key)), .ofEnvironment text)

end Rulebook
