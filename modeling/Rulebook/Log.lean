/-!
# Log lines

A log line has a level, the tag of the part that writes it, and a message. `Log.Sink` says where
lines go: a recorder keeps them as they are, a structured log takes them under its own level
names, and with no sink they are dropped.
-/

namespace Rulebook

inductive LogLevel where
  | verbose
  | debug
  | warning
  | error
  deriving DecidableEq

structure LogLine where
  level : LogLevel
  tag : String
  message : String
  deriving DecidableEq

namespace LogLevel

def name : LogLevel → String
  | .verbose => "verbose"
  | .debug => "debug"
  | .warning => "warning"
  | .error => "error"

/-- The level's name in a structured log. -/
def structuredName : LogLevel → String
  | .verbose => "TRACE"
  | .debug => "DEBUG"
  | .warning => "WARN"
  | .error => "ERROR"

end LogLevel

namespace Log

inductive Sink where
  | recorder
  | structured
  | none
  deriving DecidableEq

/-- What a sink has received: lines as they are, and lines of the structured log. -/
structure Received where
  recorded : List LogLine := []
  structured : List LogLine := []

/-- What the sink makes of some lines. -/
def Sink.receive (lines : List LogLine) : Sink → Received
  | .recorder => { recorded := lines }
  | .structured => { structured := lines }
  | .none => {}

end Log
end Rulebook
