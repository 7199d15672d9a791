/-
Splitting a command's arguments into options and positional arguments. An
option has a long name, which may carry its value after an equals sign, and
perhaps a short one; short names may be run together, and the rest of such an
argument is the value of the first that takes one. Two dashes end the options.
-/
import Fingerprint.Text.Similarity
import Fingerprint.Text.Quoted
import Fingerprint.Text.Split

namespace Fingerprint.CommandLine

open Text

/-- An option: its names, the long one first, and whether it takes a value. -/
structure OptionSpec where
  long : String
  short : Option Char := none
  takesValue : Bool := false
  deriving DecidableEq, Repr

/-- Why arguments cannot be split. -/
inductive SplitError where
  | noSuchOption (name : String) (close : List String)
  | needsArgument (name : String)
  | takesNoValue (name : String)
  deriving DecidableEq, Repr

/-- Names that may have been meant. -/
def suggestion (close : List String) : String :=
  match close with
  | [] => ""
  | [name] => s!" Did you mean {quotedString name}?"
  | names => " (Did you mean one of: " ++ joinStrings ", " (names.map quotedString) ++ "?)"

/-- The wording of an error. -/
def SplitError.message : SplitError → String
  | noSuchOption name close => s!"No such option {quotedString name}." ++ suggestion close
  | needsArgument name => s!"Option {quotedString name} requires an argument."
  | takesNoValue name => s!"Option {quotedString name} does not take a value."

/-- Options in the order in which they were given, each with its value, and the other arguments. -/
structure Split where
  options : List (OptionSpec × String) := []
  positionals : List String := []
  deriving DecidableEq, Repr

/-- What one argument gives: options, and perhaps one that still needs its value, under the name
that it was given by. -/
structure Given where
  options : List (OptionSpec × String) := []
  open? : Option (OptionSpec × String) := none

/-- Whether an argument is an option. -/
def isOption (arg : String) : Bool := arg.startsWith "-" && arg != "-"

/-- Reads short names that are run together. -/
def shortOptions (specs : List OptionSpec) : List Char → Except SplitError Given
  | [] => .ok {}
  | c :: rest =>
    let name := String.ofList ['-', c]
    match specs.find? fun s => s.short = some c with
    | none => .error (.noSuchOption name [])
    | some s =>
      if s.takesValue then
        if rest.isEmpty then .ok { open? := some (s, name) }
        else .ok { options := [(s, String.ofList rest)] }
      else (shortOptions specs rest).map fun g => { g with options := (s, "") :: g.options }

/-- Reads an argument that is an option. -/
def readOption (specs : List OptionSpec) (arg : String) : Except SplitError Given :=
  let chars := arg.toList
  let name := String.ofList (chars.takeWhile (· != '='))
  let value? : Option String :=
    match chars.dropWhile (· != '=') with
    | [] => none
    | _ :: value => some (String.ofList value)
  match specs.find? fun s => s.long = name with
  | some s =>
    match s.takesValue, value? with
    | true, some value => .ok { options := [(s, value)] }
    | true, none => .ok { open? := some (s, name) }
    | false, some _ => .error (.takesNoValue name)
    | false, none => .ok { options := [(s, "")] }
  | none =>
    if arg.startsWith "--" then .error (.noSuchOption name (closeTo name (specs.map (·.long))))
    else shortOptions specs (chars.drop 1)

/-- Splits arguments. Unless `mixed`, the first argument that is no option ends the options. The
second argument is an option that waits for its value. -/
def splitFrom (specs : List OptionSpec) (mixed : Bool) :
    Option (OptionSpec × String) → List String → Except SplitError Split
  | none, [] => .ok {}
  | some (_, name), [] => .error (.needsArgument name)
  | some (s, _), value :: rest =>
    (splitFrom specs mixed none rest).map fun r => { r with options := (s, value) :: r.options }
  | none, arg :: rest =>
    if arg = "--" then .ok { positionals := rest }
    else if isOption arg then
      match readOption specs arg with
      | .error e => .error e
      | .ok g =>
        (splitFrom specs mixed g.open? rest).map fun r =>
          { r with options := g.options ++ r.options }
    else if mixed then
      (splitFrom specs mixed none rest).map fun r => { r with positionals := arg :: r.positionals }
    else .ok { positionals := arg :: rest }

/-- Splits arguments. -/
def splitArguments (specs : List OptionSpec) (mixed : Bool) (args : List String) :
    Except SplitError Split :=
  splitFrom specs mixed none args

namespace Split

/-- Whether an option was given. -/
def has (s : Split) (long : String) : Bool := s.options.any fun o => o.1.long == long

/-- The last value given to an option. -/
def value? (s : Split) (long : String) : Option String :=
  ((s.options.filter fun o => o.1.long == long).getLast?).map (·.2)

end Split

end Fingerprint.CommandLine
