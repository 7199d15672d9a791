/-
Lines of a log. An event is written as a line for reading, with its fields in
ascending order, or as a JSON object, with its fields in the order in which
they were given. How the time of an event is written hangs on the format.

A few fields have a place of their own in a line for reading: one more name
beside that of the logger, and below the line a stack and an exception. Fields
by which an event is marked on its way to a handler are not written.
-/
import Fingerprint.Calendar.Moment
import Fingerprint.Json.Display
import Fingerprint.Log.Severity

namespace Fingerprint.Log

open Json Text

/-- The form of log lines. -/
inductive Format where
  | console
  | json
  deriving DecidableEq, Repr

/-- The format of a name; every name but one stands for the console. -/
def Format.ofName (s : String) : Format := if s = "json" then .json else .console

/-- The text of a time in each format. -/
abbrev Clock := Format → String

/-- The time of day on the console, and date and time in JSON. -/
def clockAt (m : Calendar.Moment) : Clock
  | .console =>
    String.ofList (Calendar.twoDigits m.time.hour ++ ':' :: Calendar.twoDigits m.time.minute
      ++ ':' :: Calendar.twoDigits m.time.second)
  | .json => m.timestamp?.getD ""

/-- An event as it reaches a logger. -/
structure Record where
  time : Clock
  logger : String
  severity : Severity
  event : String
  fields : List (String × Value)

/-- Pads with spaces on the right up to a width. -/
def padRight (width : Nat) (s : List Char) : List Char :=
  s ++ List.replicate (width - s.length) ' '

/-- Whether a text cannot stand without quotes as the value of a field. -/
def needsQuotes (s : List Char) : Bool :=
  s.any fun c => c = ' ' || c = '\t' || c = '=' || c = '\r' || c = '\n' || c = '"' || c = '\''

/-- The value of a field in a line for reading. -/
def consoleValue : Value → List Char
  | .string s => if needsQuotes s.toList then quoted s.toList else s.toList
  | v => v.shown

/-- The field that asks for the exception being handled. No event is sent while one is. -/
def exceptionRequest : String := "exc_info"

/-- The whole event as a document: its fields, then what the logger adds. -/
def Record.document (r : Record) (f : Format) : List (String × Value) :=
  [("event", r.event), ("level", r.severity.name), ("logger", r.logger),
      ("timestamp", r.time f)].foldl
    (fun es m => Entries.put m.1 (.string m.2) es) (r.fields.filter (·.1 ≠ exceptionRequest))

/-- The fields that mark an event on its way to a handler, which takes them off. -/
def handlerMarks : List String := ["_from_structlog", "_record"]

/-- The event as the document that a handler writes. -/
def Record.handled (r : Record) (f : Format) : List (String × Value) :=
  (r.document f).filter fun m => !handlerMarks.contains m.1

/-- The fields that have a place of their own in a line for reading. -/
def placedFields : List String :=
  ["event", "exception", "level", "logger", "logger_name", "stack", "timestamp"]

/-- The fields that a line for reading lists by name, in ascending order. -/
def Record.listed (r : Record) : List (String × Value) :=
  ((r.handled .console).filter fun m => !placedFields.contains m.1).mergeSort
    fun a b => decide (a.1 ≤ b.1)

/-- The names in brackets: that of the logger and, where a field gives one, a second. -/
def Record.loggerNames (r : Record) : List Char :=
  (r.logger :: ((Entries.get? "logger_name" r.fields).map Value.display).toList).flatMap
    fun name => " [".toList ++ name.toList ++ [']']

/-- The event as a line for reading, without its end. -/
def Record.consoleLine (r : Record) : List Char :=
  let line := (r.time .console).toList ++ " [".toList ++ padRight 9 r.severity.name.toList ++
    "] ".toList
    ++ padRight 30 r.event.toList ++ r.loggerNames
    ++ r.listed.flatMap fun m => ' ' :: (m.1.toList ++ '=' :: consoleValue m.2)
  (line.reverse.dropWhile (· == ' ')).reverse

/-- The lines of a field that is written below, the break before them included; none if it is not
there or null. -/
def Record.below? (r : Record) (name : String) : Option (List Char) :=
  match Entries.get? name r.fields with
  | none | some .null => none
  | some v => some ('\n' :: v.display.toList)

/-- What separates a stack from an exception. -/
def separator : List Char := "\n\n".toList ++ List.replicate 79 '=' ++ ['\n']

/-- What is written below a line for reading: the stack, then the exception. -/
def Record.below (r : Record) : List Char :=
  match r.below? "stack", r.below? "exception" with
  | some stack, some exception => stack ++ separator ++ exception
  | stack, exception => stack.getD [] ++ exception.getD []

/-- The event as a line in a format, with what is written below it. -/
def Record.line (r : Record) : Format → String
  | .console => String.ofList (r.consoleLine ++ r.below ++ ['\n'])
  | .json => String.ofList (printLine (.object (r.handled .json)) ++ ['\n'])

/-- The event as bare text, which stands in for a line where no handler takes it. -/
def Record.bareLine (r : Record) (f : Format) : String :=
  (Value.object (r.document f)).quoted ++ "\n"

end Fingerprint.Log
