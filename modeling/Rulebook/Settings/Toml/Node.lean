import Rulebook.Settings.Setting

/-!
# Tables in the making in TOML

The statements of a document are carried out on a tree whose tables remember how they came about:
a table that has its own header, or that was given as a value, may not be added to from elsewhere.
Tables under one header in double brackets form a list; a key or a header that leads through it
leads to its last table.
-/

namespace Rulebook.Toml

/-- How a table came about. -/
inductive Origin where
  /-- A header passed through it. -/
  | passed
  /-- It has a header of its own. -/
  | headed
  /-- A key of several parts made it. -/
  | dotted
  deriving DecidableEq

/-- A document in the making. -/
inductive Node where
  | value (s : Setting)
  | table (origin : Origin) (entries : List (String × Node))
  /-- Tables of one header in double brackets, the last one first. -/
  | tables (last : List (String × Node)) (before : List (List (String × Node)))

abbrev Entries := List (String × Node)

namespace Entries

/-- Puts a node in the place of the one with its key, or at the end. -/
def update (key : String) (n : Node) : Entries → Entries
  | [] => [(key, n)]
  | (k, old) :: rest => if k = key then (k, n) :: rest else (k, old) :: update key n rest

/-- Gives a key of several parts its value. The last part needs a table that is `open` to keys of
several parts, which a table of a list is not; its tables inside may be. -/
def assignWithin? (isOpen : Bool) (entries : Entries) : List String → Setting → Option Entries
  | [], _ => none
  | [key], s =>
    if isOpen ∧ (entries.lookup key).isNone then some (entries.update key (.value s)) else none
  | key :: rest, s => do
    match entries.lookup key with
    | none => return entries.update key (.table .dotted (← assignWithin? true [] rest s))
    | some (.table .headed _) | some (.value _) => none
    | some (.table origin inner) =>
      return entries.update key (.table origin (← assignWithin? true inner rest s))
    | some (.tables last before) =>
      return entries.update key (.tables (← assignWithin? false last rest s) before)

/-- Gives a key its value in the table that a statement stands in. -/
def assign? (entries : Entries) (key : List String) (s : Setting) : Option Entries :=
  assignWithin? true entries key s

/-- Changes the table that a header names. -/
def under? (change : Entries → Option Entries) (entries : Entries) :
    List String → Option Entries
  | [] => change entries
  | key :: rest => do
    match entries.lookup key with
    | none => return entries.update key (.table .passed (← under? change [] rest))
    | some (.table origin inner) =>
      return entries.update key (.table origin (← under? change inner rest))
    | some (.tables last before) =>
      return entries.update key (.tables (← under? change last rest) before)
    | some (.value _) => none

/-- Opens the table of a header. -/
def open? (entries : Entries) (key : List String) : Option Entries := do
  let last ← key.getLast?
  entries.under? (fun inner =>
    match inner.lookup last with
    | none => some (inner.update last (.table .headed []))
    | some (.table .passed e) => some (inner.update last (.table .headed e))
    | some _ => none) key.dropLast

/-- Opens another table of a header in double brackets. -/
def openNext? (entries : Entries) (key : List String) : Option Entries := do
  let last ← key.getLast?
  entries.under? (fun inner =>
    match inner.lookup last with
    | none => some (inner.update last (.tables [] []))
    | some (.tables e before) => some (inner.update last (.tables [] (e :: before)))
    | some _ => none) key.dropLast

end Entries

mutual

def Node.setting : Node → Setting
  | .value s => s
  | .table _ entries => .table (settings entries)
  | .tables last before => .list ((settingsOfAll before).reverse ++ [.table (settings last)])

/-- The entries as settings. -/
def settings : List (String × Node) → List (String × Setting)
  | [] => []
  | (key, n) :: rest => (key, n.setting) :: settings rest

def settingsOfAll : List (List (String × Node)) → List Setting
  | [] => []
  | entries :: rest => .table (settings entries) :: settingsOfAll rest

end

end Rulebook.Toml
