/-
The commands, the arguments that each takes, and how wrong arguments are
reported. A usage error shows how the command is used, unless it comes from
splitting an option off its value.
-/
import Fingerprint.CommandLine.Options

namespace Fingerprint.CommandLine

open Text

/-- A command. -/
inductive Command where
  | init
  | scan
  | render
  | validate
  deriving DecidableEq, Repr

namespace Command

/-- Every command. -/
def all : List Command := [init, scan, render, validate]

/-- The name of a command. -/
def name : Command → String
  | init => "init"
  | scan => "scan"
  | render => "render"
  | validate => "validate"

/-- The command of exactly this name. -/
def withName? (s : String) : Option Command := all.find? fun c => c.name == s

end Command

/-- The option that asks for help; every command has it. -/
def helpOption : OptionSpec := { long := "--help" }

/-- The option that forces a language. -/
def languageOption : OptionSpec := { long := "--language", short := some 'l', takesValue := true }

/-- What can be called: the program itself, or one of its commands. -/
inductive Callable where
  | program
  | command (c : Command)
  deriving DecidableEq, Repr

namespace Callable

/-- The options. -/
def options : Callable → List OptionSpec
  | program => [{ long := "--version" }, { long := "--verbose", short := some 'v' }, helpOption]
  | command .init =>
    [ languageOption, { long := "--description", short := some 'd', takesValue := true },
      { long := "--author", short := some 'a', takesValue := true },
      { long := "--output", short := some 'o', takesValue := true }, helpOption ]
  | command .scan => [languageOption, { long := "--json" }, helpOption]
  | command .render =>
    [ { long := "--name", short := some 'n', takesValue := true }, languageOption,
      { long := "--artifact", takesValue := true }, helpOption ]
  | command .validate => [helpOption]

/-- The name by which it is called. -/
def called : Callable → String
  | program => "phantom"
  | command c => "phantom " ++ c.name

/-- How its argument is shown. -/
def argumentName : Callable → String
  | program => "COMMAND [ARGS]..."
  | command .init => "PROJECT_NAME"
  | command .validate => "[MANIFEST]"
  | command _ => "[PATH]"

/-- The line that shows how it is used. -/
def usageLine (c : Callable) : String := s!"Usage: {c.called} [OPTIONS] {c.argumentName}\n"

/-- How it is used, and where help is found. -/
def usage (c : Callable) : String :=
  c.usageLine ++ s!"Try '{c.called} --help' for help.\n\n"

end Callable

/-- Why a call is refused. -/
inductive UsageError where
  | split (callable : Callable) (error : SplitError)
  | missingCommand
  | noSuchCommand (name : String)
  | missingArgument (callable : Callable)
  | extraArguments (callable : Callable) (args : List String)
  | notOneOf (callable : Callable) (option value : String) (choices : List String)
  | badPath (callable : Callable) (kind path trouble : String)
  deriving DecidableEq, Repr

namespace UsageError

/-- The wording of an error. -/
def message : UsageError → String
  | split _ error => error.message
  | missingCommand => "Missing command."
  | noSuchCommand name =>
    s!"No such command {quotedString name}." ++ suggestion (closeTo name (Command.all.map Command.name))
  | missingArgument callable => s!"Missing argument '{callable.argumentName}'."
  | extraArguments _ [arg] => s!"Got unexpected extra argument ({arg})"
  | extraArguments _ args => "Got unexpected extra arguments (" ++ joinStrings " " args ++ ")"
  | notOneOf _ option value choices =>
    s!"Invalid value for '{option}': {quotedString value} is not one of "
      ++ joinStrings ", " (choices.map quotedString) ++ "."
  | badPath callable kind path trouble =>
    s!"Invalid value for '{callable.argumentName}': {kind} {quotedString path} is {trouble}."

/-- What the error concerns, if it shows how that is used. -/
def shown? : UsageError → Option Callable
  | split callable (.noSuchOption _ _) => some callable
  | split _ _ => none
  | missingCommand => some .program
  | noSuchCommand _ => some .program
  | missingArgument callable => some callable
  | extraArguments callable _ => some callable
  | notOneOf callable _ _ _ => some callable
  | badPath callable _ _ _ => some callable

/-- The whole report. -/
def report (e : UsageError) : String :=
  ((e.shown?.map Callable.usage).getD "") ++ s!"Error: {e.message}\n"

end UsageError

end Fingerprint.CommandLine
