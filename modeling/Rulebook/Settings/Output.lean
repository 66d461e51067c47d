import Rulebook.Json.Value
import Rulebook.Settings.Basic
import Rulebook.Settings.Filter
import Rulebook.Text.Quoted

/-!
# The structured log

Lines of the structured log have a severity, a target and fields. Setting it up installs a filter,
which the environment or the settings give, and writes a first line; it can be set up once only.
A plain line shows the severity in five columns, the target, the message and the other fields.
-/

namespace Rulebook

structure StructuredLine where
  severity : Severity
  target : String
  message : String
  /-- The fields besides the message, as values and as they stand in a plain line. -/
  fields : List (String × Value × String)

namespace StructuredLine

/-- The line by which a log line goes into the structured log. -/
def ofLogLine (l : LogLine) : StructuredLine where
  severity := .ofLevel l.level
  target := "rules_engine::logging"
  message := l.message
  fields := [("tag", .str l.tag, Text.quoted l.tag)]

/-- The first line after the log has been set up. -/
def initialized (s : LogSettings) : StructuredLine where
  severity := .info
  target := "rules_shared::observability"
  message := "Observability initialized"
  fields :=
    [("service", .str s.serviceName, s.serviceName), ("log_level", .str s.logLevel, s.logLevel),
      ("json_logs", .bool s.jsonLogs, if s.jsonLogs then "true" else "false")]

/-- All fields of the line as values. -/
def values (l : StructuredLine) : List (String × Value) :=
  ("message", .str l.message) :: l.fields.map fun (name, v, _) => (name, v)

/-- The parts of a line that is written as JSON. -/
def keys : List String := ["fields", "level", "target", "threadId", "timestamp"]

/-- A character of a message as a terminal may be shown it. -/
def shownChar (c : Char) : List Char :=
  let n := c.toNat
  if n = 0x1b ∨ n = 0x07 ∨ n = 0x08 ∨ n = 0x0c ∨ n = 0x7f then
    ['\\', 'x', Nat.digitChar (n / 16), Nat.digitChar (n % 16)]
  else if 0x80 ≤ n ∧ n ≤ 0x9f then
    ['\\', 'u', '\x7b'] ++ Nat.toDigits 16 n ++ ['\x7d']
  else [c]

/-- The line in plain text, which goes on over the line ends in its message. -/
def plain (l : StructuredLine) : List String :=
  let severity := List.replicate (5 - l.severity.name.length) ' ' ++ l.severity.name.toList
  let message := l.message.toList.flatMap shownChar
  let fields := l.fields.flatMap fun (name, _, shown) => (" " ++ name ++ "=" ++ shown).toList
  let line := severity ++ " ".toList ++ l.target.toList ++ ": ".toList ++ message ++ fields
  (line.splitOn '\n').map String.ofList

end StructuredLine

/-- The filter that counts: the environment's, or else the one of the settings, or else `info`. -/
def LogSettings.filter (s : LogSettings) (environment : List (String × String)) : Filter :=
  ((variableText? environment "RUST_LOG").bind Filter.parse? <|> Filter.parse? s.logLevel).getD
    ⟨[{ level := ⟨Severity.info.rank⟩ }]⟩

/-- The structured log: not set up, or with the filter it was set up with. -/
structure StructuredLog where
  filter : Option Filter

namespace StructuredLog

/-- The lines that the log lets pass. -/
def write (log : StructuredLog) (lines : List StructuredLine) : List StructuredLine :=
  match log.filter with
  | none => []
  | some f => lines.filter fun l => f.passes l.severity l.target (l.values.map Prod.fst)

/-- Sets the log up, and says whether that could be done, with the lines it writes. -/
def setUp (log : StructuredLog) (s : LogSettings) (environment : List (String × String)) :
    Bool × StructuredLog × List StructuredLine :=
  match log.filter with
  | some _ => (false, log, [])
  | none =>
    let log := ⟨some (s.filter environment)⟩
    (true, log, log.write [.initialized s])

end StructuredLog
end Rulebook
