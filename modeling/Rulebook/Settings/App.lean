import Rulebook.Settings.Basic
import Rulebook.Settings.File

/-!
# The settings of an application

They are laid over each other in this order: the service's name and the environment's, three files
(the default one, the environment's and the service's, each of which may be missing), and the
variables of the environment. A field that no layer gives has its default; the name under which
lines are logged is the service's unless one is given.
-/

namespace Rulebook

structure AppSettings where
  serviceName : String := ""
  environment : String := ""
  engine : EngineSettings := {}
  log : LogSettings := {}
  deriving DecidableEq

/-- Why settings do not load: a file does not read, or a setting is of the wrong kind. -/
inductive SettingsFault where
  | file (name : String)
  | setting
  deriving DecidableEq

namespace Setting

/-- Reads the setting of a key that need not be there. -/
def readKey {α : Type} (s : Setting) (key : String) (fallback : α) (read : Setting → Option α) :
    Option α :=
  match s.get? key with
  | none => some fallback
  | some v => read v

/-- The mode that a setting names, by itself or as the one key of a table. -/
def asCaseMode? : Setting → Option CaseMode
  | .text name => CaseMode.ofName? name
  | .table [(name, _)] => CaseMode.ofName? name
  | _ => none

/-- A table, or a list whose elements stand for the given keys. -/
def asRecord? (keys : List String) : Setting → Option Setting
  | .table entries => some (.table entries)
  | .list elements => some (.table (keys.zip elements))
  | _ => none

end Setting

def EngineSettings.ofSetting? (s : Setting) : Option EngineSettings := do
  let fallback : EngineSettings := {}
  let s ← s.asRecord? ["start_tag", "end_tag", "comparison_mode"]
  return {
    openingTag := ← s.readKey "start_tag" fallback.openingTag Setting.asText?
    closingTag := ← s.readKey "end_tag" fallback.closingTag Setting.asText?
    caseMode := ← s.readKey "comparison_mode" fallback.caseMode Setting.asCaseMode? }

def LogSettings.ofSetting? (s : Setting) : Option LogSettings := do
  let fallback : LogSettings := {}
  let s ← s.asRecord? ["service_name", "log_level", "json_logs"]
  return {
    serviceName := ← s.readKey "service_name" fallback.serviceName Setting.asText?
    logLevel := ← s.readKey "log_level" fallback.logLevel Setting.asText?
    jsonLogs := ← s.readKey "json_logs" fallback.jsonLogs Setting.asFlag? }

namespace AppSettings

def ofSetting? (s : Setting) : Option AppSettings := do
  let settings : AppSettings := {
    serviceName := ← s.readKey "service_name" "" Setting.asText?
    environment := ← s.readKey "environment" "" Setting.asText?
    engine := ← s.readKey "engine" {} EngineSettings.ofSetting?
    log := ← s.readKey "observability" {} LogSettings.ofSetting? }
  if settings.log.serviceName = "" then
    return { settings with log := { settings.log with serviceName := settings.serviceName } }
  else return settings

/-- The layer of the file of a name. -/
def fileLayer (files : SettingsFiles) (name : String) : Except SettingsFault Layer :=
  match files.layer? name with
  | some layer => .ok layer
  | none => .error (.file name)

/-- The layers of an application's settings, the lowest first. -/
def layers (files : SettingsFiles) (vars : List (String × String))
    (environment service : String) : Except SettingsFault (List Layer) := do
  return [[([.key "service_name"], .text service), ([.key "environment"], .text environment)],
    ← fileLayer files "default",
    ← fileLayer files environment,
    ← fileLayer files service,
    Layer.ofEnvironment "rules" vars]

def load (files : SettingsFiles) (vars : List (String × String))
    (environment service : String) : Except SettingsFault AppSettings := do
  match ofSetting? (layAll (← layers files vars environment service)) with
  | some settings => .ok settings
  | none => .error .setting

/-- The environment that a variable names. -/
def environmentOf (vars : List (String × String)) : String :=
  (variableText? vars "RULES_ENV").getD "development"

def isProduction (s : AppSettings) : Bool := s.environment == "production"

end AppSettings
end Rulebook
