import Rulebook.Comparison
import Rulebook.Engine
import Rulebook.Json.Reader

/-!
# Settings

The settings of an engine and those of its logging, with their defaults, and how they are read
from a JSON text. Every field has a default, so a record given as a list may end anywhere, and a
field may be given once.
-/

namespace Rulebook

structure EngineSettings where
  openingTag : String := Delimiters.braces.opening
  closingTag : String := Delimiters.braces.closing
  caseMode : CaseMode := .exact
  deriving DecidableEq

structure LogSettings where
  serviceName : String := ""
  logLevel : String := "info"
  /-- Are log lines written as JSON? -/
  jsonLogs : Bool := false
  deriving DecidableEq

def EngineSettings.delimiters (s : EngineSettings) : Except EmptyTag Delimiters :=
  Delimiters.make s.openingTag s.closingTag

/-- An engine without rules that judges and delimits by the settings. -/
def Engine.ofSettings {ρ : Type} (s : EngineSettings)
    (convert : String → Option Value → Logged (Option Value)) : Except EmptyTag (Engine ρ) :=
  s.delimiters.map fun d => (Engine.new (.standard s.caseMode) convert).withDelimiters d

/-- A variable of the environment. -/
def variableText? (environment : List (String × String)) (name : String) : Option String :=
  environment.lookup name

/-- The settings of logging that the environment asks for. -/
def LogSettings.ofEnvironment (environment : List (String × String)) (serviceName : String) :
    LogSettings where
  serviceName
  logLevel := (variableText? environment "RUST_LOG").getD "info"
  jsonLogs := match variableText? environment "JSON_LOGS" with
    | some v => v == "true" || v == "1"
    | none => false

/-! ## From a text -/

open Json (Break Fault StringText Tree)
open Json.Tree (plain field next endOfFields)

/-- The mode of a name. -/
def CaseMode.ofText (name : String) : Except Fault CaseMode :=
  match CaseMode.ofName? name with
  | some m => .ok m
  | none => .error (.shape (.unknownVariant name CaseMode.exact.name CaseMode.ignored.name))

/-- Reads a mode, given by its name or by an object whose one member has that name and is null. -/
def CaseMode.ofTree (depth : Nat) : Tree → Except Fault CaseMode
  | .string s => do CaseMode.ofText (← plain s.text)
  | .object members ending => do
    let _ ← plain (Json.enter depth)
    match members with
    | [] =>
      match ending with
      | .wrongKey l => (Tree.begun l).refuse .variant
      | ending => .error (.broken (ending.break?.getD .malformed))
    | (key, t) :: rest => do
      let mode ← CaseMode.ofText (← plain key.text)
      match t with
      | .null => endOfFields ending.break? rest
      | t => t.refuse .nothing
      return mode
  | .broken .ends => .error (.broken .ends)
  | _ => .error (.broken .malformed)

namespace EngineSettings

/-- The fields given so far. -/
structure Given where
  openingTag : Option String := none
  closingTag : Option String := none
  caseMode : Option CaseMode := none

def Given.settings (g : Given) : EngineSettings :=
  let d : EngineSettings := {}
  ⟨g.openingTag.getD d.openingTag, g.closingTag.getD d.closingTag, g.caseMode.getD d.caseMode⟩

def Given.read (depth : Nat) (g : Given) : StringText × Tree → Except Fault Given
  | (key, t) => do
    match ← plain key.text with
    | "start_tag" => return { g with openingTag := ← field "start_tag" g.openingTag t.text }
    | "end_tag" => return { g with closingTag := ← field "end_tag" g.closingTag t.text }
    | "comparison_mode" =>
      return { g with
        caseMode := ← field "comparison_mode" g.caseMode (CaseMode.ofTree depth t) }
    | _ => do
      t.skip
      return g

def ofTree : Tree → Except Fault EngineSettings
  | .object members ending => do
    let depth ← plain (Json.enter 0)
    let g ← members.foldlM (Given.read depth) {}
    plain (Json.close ending.break?)
    return g.settings
  | .array items ending => do
    let depth ← plain (Json.enter 0)
    let (openingTag, rest) ← next ending items Tree.text
    let (closingTag, rest) ← next ending rest Tree.text
    let (caseMode, rest) ← next ending rest (CaseMode.ofTree depth)
    endOfFields ending rest
    return (Given.mk openingTag closingTag caseMode).settings
  | t => t.refuse (.record "EngineConfig")

def ofText (text : String) : Except Fault EngineSettings :=
  (Json.Document.ofText text).read ofTree

end EngineSettings

namespace LogSettings

/-- The fields given so far. -/
structure Given where
  serviceName : Option String := none
  logLevel : Option String := none
  jsonLogs : Option Bool := none

def Given.settings (g : Given) : LogSettings :=
  let d : LogSettings := {}
  ⟨g.serviceName.getD d.serviceName, g.logLevel.getD d.logLevel, g.jsonLogs.getD d.jsonLogs⟩

def Given.read (g : Given) : StringText × Tree → Except Fault Given
  | (key, t) => do
    match ← plain key.text with
    | "service_name" => return { g with serviceName := ← field "service_name" g.serviceName t.text }
    | "log_level" => return { g with logLevel := ← field "log_level" g.logLevel t.text }
    | "json_logs" => return { g with jsonLogs := ← field "json_logs" g.jsonLogs t.flag }
    | _ => do
      t.skip
      return g

def ofTree : Tree → Except Fault LogSettings
  | .object members ending => do
    let _ ← plain (Json.enter 0)
    let g ← members.foldlM Given.read {}
    plain (Json.close ending.break?)
    return g.settings
  | .array items ending => do
    let _ ← plain (Json.enter 0)
    let (serviceName, rest) ← next ending items Tree.text
    let (logLevel, rest) ← next ending rest Tree.text
    let (jsonLogs, rest) ← next ending rest Tree.flag
    endOfFields ending rest
    return (Given.mk serviceName logLevel jsonLogs).settings
  | t => t.refuse (.record "ObservabilityConfig")

def ofText (text : String) : Except Fault LogSettings :=
  (Json.Document.ofText text).read ofTree

end LogSettings
end Rulebook
