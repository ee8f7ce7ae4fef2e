import ScriptBench.Json.Decoder
import ScriptBench.Time

/-!
The log lines of an instance.

These are `LogLevel`, and `LogEntry` with `show` (here `text`).
-/
namespace ScriptBench

inductive LogLevel where
  | info
  | warn
  | error
  deriving DecidableEq, Repr, Inhabited

namespace LogLevel

def name : LogLevel → String
  | .info => "info"
  | .warn => "warn"
  | .error => "error"

/-- The level as it stands in a printed line. -/
def title : LogLevel → String
  | .info => "Info"
  | .warn => "Warn"
  | .error => "Error"

def all : List LogLevel := [.info, .warn, .error]

def decoder : Decoder LogLevel := .choice (all.map fun l => (l.name, l))

end LogLevel

namespace Time

def decoder : Decoder Time :=
  .parsed "an RFC 3339 formatted date and time string" fun s =>
    (parse s).mapError TimeFault.message

def toJson (t : Time) : Json := .str t.text

end Time

/-- One line: its level, when it was written, in which scope, and what it says. -/
structure LogEntry where
  level : LogLevel
  time : Time
  scope : String
  message : String
  deriving DecidableEq, Repr, Inhabited

namespace LogEntry

/-- The line as it is shown to people. -/
def text (e : LogEntry) : String :=
  e.time.clockText ++ " " ++ e.level.title ++ " [" ++ e.scope ++ "] " ++ e.message

def toJson (e : LogEntry) : Json :=
  .obj [("level", .str e.level.name), ("time", e.time.toJson), ("scope", .str e.scope),
    ("message", .str e.message)]

def decoder : Decoder LogEntry :=
  .record "LogEntry" ⟨.info, .epoch, "", ""⟩
    [.need "level" LogLevel.decoder fun x e => { e with level := x },
     .need "time" Time.decoder fun x e => { e with time := x },
     .need "scope" .string fun x e => { e with scope := x },
     .need "message" .string fun x e => { e with message := x }]

end LogEntry

end ScriptBench
