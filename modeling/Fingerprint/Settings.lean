/-
Settings from the environment: their names, and the values that hold where
the environment says nothing.
-/
import Fingerprint.Text.Case

namespace Fingerprint

open Text

/-- The variables that are set. -/
abbrev Environment := List (String × String)

namespace Settings

/-- The least severity that is logged. -/
def logLevelVariable : String := "PHANTOMKIT_LOG_LEVEL"

/-- The form of log lines. -/
def logFormatVariable : String := "PHANTOMKIT_LOG_FORMAT"

/-- How a project is isolated when it runs. -/
def isolationVariable : String := "PHANTOMKIT_RUNTIME_ISOLATION"

/-- How many milliseconds a run may take. -/
def timeoutVariable : String := "PHANTOMKIT_RUNTIME_TIMEOUT_MS"

/-- How many megabytes a run may use. -/
def memoryVariable : String := "PHANTOMKIT_RUNTIME_MEMORY_MB"

/-- A variable's value, or else the given one. -/
def textOr (env : Environment) (key fallback : String) : String :=
  (env.lookup key).getD fallback

/-- The name of the log level, in capitals. -/
def logLevel (env : Environment) : String :=
  String.ofList (upper (textOr env logLevelVariable "INFO").toList)

/-- The name of the log format, in small letters. -/
def logFormat (env : Environment) : String :=
  String.ofList (lower (textOr env logFormatVariable "console").toList)

end Settings

end Fingerprint
