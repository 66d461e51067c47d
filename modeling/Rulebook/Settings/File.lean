import Rulebook.Settings.Corn
import Rulebook.Settings.Ini
import Rulebook.Settings.Json
import Rulebook.Settings.Json5
import Rulebook.Settings.Layer
import Rulebook.Settings.Ron
import Rulebook.Settings.Toml.Document
import Rulebook.Settings.Yaml.Document

/-!
# Files of settings

The file of a layer is wanted by a name that ends in `.toml`. Where no file of that name is, one
is taken whose name goes on with the ending of a format: the formats are tried in a fixed order.
Text that does not read in its format is a fault; a file that is missing is none.

A name that is nothing but an ending, as `.toml` is, counts as a name without one. A file of such
a name is there but is in no known format, and gives no settings.
-/

namespace Rulebook

/-- The formats that settings may be in. -/
inductive SettingsFormat where
  | toml
  | json
  | yaml
  | ini
  | ron
  | json5
  | corn
  deriving DecidableEq

namespace SettingsFormat

/-- The formats in the order in which they are tried. -/
def all : List SettingsFormat := [.toml, .json, .yaml, .ini, .ron, .json5, .corn]

/-- The endings of the names of files in the format. -/
def endings : SettingsFormat → List String
  | .toml => ["toml"]
  | .json => ["json"]
  | .yaml => ["yaml", "yml"]
  | .ini => ["ini"]
  | .ron => ["ron"]
  | .json5 => ["json5"]
  | .corn => ["corn"]

/-- The settings that a text in the format gives; a mark of byte order before it is no part of
it. -/
def read? (format : SettingsFormat) (text : String) : Option (List (String × Setting)) :=
  let text := if text.toList.head? = some '\ufeff' then String.ofList (text.toList.drop 1) else text
  match format with
  | .toml => Toml.read? text
  | .json => Setting.readJson? text
  | .yaml => Yaml.read? text
  | .ini => Ini.read? text
  | .ron => Ron.read? text
  | .json5 => Json5.read? text
  | .corn => Corn.read? text

end SettingsFormat

/-- The files of a directory: their names and their texts. -/
abbrev SettingsFiles := List (String × String)

namespace SettingsFiles

/-- The path of a name in the directory, without the parts that lead nowhere; a name that begins at
the root leads out of the directory. -/
def path? (name : String) : Option (List String) :=
  match name.splitToList (· == '/') with
  | "" :: _ :: _ => none
  | parts => some (parts.filter fun part => part ≠ "" ∧ part ≠ ".")

/-- The text of the file at a path. -/
def at? (files : SettingsFiles) (path : List String) : Option String :=
  files.findSome? fun (name, text) => if path? name = some path then some text else none

/-- The file that holds the settings of a name, and its format. -/
def find? (files : SettingsFiles) (name : String) : Option (SettingsFormat × String) := do
  let path ← path? (name ++ ".toml")
  match files.at? path with
  | some text => if path.getLast? = some ".toml" then none else some (.toml, text)
  | none =>
    SettingsFormat.all.firstM fun format =>
      format.endings.firstM fun ending =>
        (path? (name ++ ".toml." ++ ending)).bind files.at? |>.map fun text => (format, text)

/-- The layer of the file of a name, which is empty when there is none; nothing when the file does
not read. -/
def layer? (files : SettingsFiles) (name : String) : Option Layer :=
  match files.find? name with
  | none => some []
  | some (format, text) => (format.read? text).map Layer.ofEntries

example : find? [("a.toml.json", "1"), ("a.toml.yml", "2")] "./a" = some (.json, "1") := by
  decide +kernel
example : find? [(".toml", "1")] "" = none := by decide +kernel

end SettingsFiles
end Rulebook
