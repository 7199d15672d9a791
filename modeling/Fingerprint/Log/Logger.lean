/-
The logger of the program. Setting it up takes its handlers away, gives it a
new one with a format, and then a level; a level of an unknown name is refused,
and the new handler stays. An event that is at least as serious as the level,
or as a warning where the level is zero, is written by every handler.

Loggers whose names lie below that of the program hand their events on to it.
Events of any other logger reach no handler.
-/
import Fingerprint.Log.Line
import Fingerprint.Settings

namespace Fingerprint.Log

open Text

/-- The state of the logger: its handlers, each with its format, its level, and whether its events
go on to the loggers above it. -/
structure Logger where
  handlers : List Format := []
  level : Nat := 0
  propagates : Bool := true
  deriving DecidableEq, Repr

/-- A level of an unknown name. -/
structure UnknownLevel where
  name : String
  deriving DecidableEq, Repr

/-- The wording of an unknown level. -/
def UnknownLevel.message (e : UnknownLevel) : String := s!"Unknown level: {quotedString e.name}"

/-- The names of levels. -/
def levels : List (String × Nat) :=
  [("CRITICAL", 50), ("FATAL", 50), ("ERROR", 40), ("WARN", 30), ("WARNING", 30), ("INFO", 20),
    ("DEBUG", 10), ("NOTSET", 0)]

namespace Logger

/-- The name of the level that a set-up asks for: the one given, or else that of the settings. -/
def requestedLevel (level : Option String) (env : Environment) : String :=
  match level with
  | some name =>
    if name.isEmpty then Settings.logLevel env else String.ofList (upper name.toList)
  | none => Settings.logLevel env

/-- Sets the logger up. -/
def setUp (l : Logger) (level : Option String) (env : Environment) :
    Logger × Except UnknownLevel Unit :=
  let l := { l with handlers := [Format.ofName (Settings.logFormat env)] }
  let name := requestedLevel level env
  match levels.lookup name with
  | some n => ({ l with level := n, propagates := false }, .ok ())
  | none => (l, .error ⟨name⟩)

/-- The least severity that is written. -/
def threshold (l : Logger) : Nat := if l.level = 0 then Severity.warning.number else l.level

/-- The name of the logger. -/
def name : String := "phantomkit"

/-- Whether the events of a logger with a name reach this one. A name lies below another from which
it goes on with a dot; of a run of dots every second one counts, from the last backwards. -/
def receives (logger : String) : Bool :=
  let rest := logger.toList.drop name.length
  name.toList.isPrefixOf logger.toList && (rest.isEmpty || (rest.takeWhile (· = '.')).length % 2 = 1)

/-- What an event writes. One that no handler takes is written bare if it is a warning or worse,
once there has been a set-up. -/
def write (l : Logger) (r : Record) : String :=
  if receives r.logger then
    if l.threshold ≤ r.severity.number then String.join (l.handlers.map r.line) else ""
  else if Severity.warning.number ≤ r.severity.number then
    ((l.handlers.head?).map r.bareLine).getD ""
  else ""

end Logger

end Fingerprint.Log
