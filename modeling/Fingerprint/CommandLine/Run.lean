/-
Running the program. The options before the command are read first, then the
logger is set up, then the command's own arguments are read and the command
runs. Events go through the logger to the error output, before anything else
that is written there. What a command prints holds no control sequences; log
lines are written as they are.
-/
import Fingerprint.CommandLine.Commands
import Fingerprint.CommandLine.Usage
import Fingerprint.Log.Logger
import Fingerprint.Text.ControlSequence

namespace Fingerprint.CommandLine

open Text

/-- What a run leaves behind. -/
structure Outcome where
  exit : Nat
  output : String := ""
  errors : String := ""
  tree : FileTree
  crash : Option Crash := none

/-- What the arguments of a command ask for. -/
inductive Request where
  | help (c : Command)
  | init (r : InitRequest)
  | scan (path language : String) (asJson : Bool)
  | render (path : String) (name : Option String) (language : String) (selection : Selection)
  | validate (path : String)
  deriving DecidableEq

/-- Why arguments are not taken: they are used wrongly, or a path holds NUL. -/
inductive Rejection where
  | usage (e : UsageError)
  | nulInPath

/-- What stands at a path as written, which with a slash or a dot at its end must be a directory. A
path written at too great a length leads nowhere. -/
def entryAt (tree : FileTree) (path : String) : Option Entry :=
  if path.isEmpty || FileTree.pathLimit < path.utf8ByteSize then none
  else
    match (tree.find (.ofString path)).toOption with
    | some (.file bytes) =>
      let last := (splitOn '/' path.toList).getLastD []
      if last.isEmpty || last == ['.'] then none else some (.file bytes)
    | found => found

/-- The kind of thing that a path argument must not be. -/
inductive Unwanted where
  | file
  | directory

/-- Checks a path argument, which need not lead to anything. -/
def checkPath (s : Snapshot) (c : Callable) (unwanted : Unwanted) (path : String) :
    Except Rejection String :=
  let kind := match unwanted with
    | .file => "Directory"
    | .directory => "File"
  let bad (trouble : String) : Except Rejection String :=
    .error (.usage (.badPath c kind path trouble))
  if path.toList.contains '\x00' then .error .nulInPath
  else
    match entryAt s.tree path, unwanted with
    | none, _ => .ok path
    | some (.file _), .file => bad "a file"
    | some .directory, .directory => bad "a directory"
    | some _, _ => if s.denied then bad "not readable" else .ok path

/-- The only positional argument, or else the given one. -/
def firstOr (fallback : String) (positionals : List String) : String :=
  positionals.headD fallback

/-- Refuses more than one positional argument. -/
def refuseExtra (c : Callable) (positionals : List String) : Except Rejection Unit :=
  match positionals.drop 1 with
  | [] => .ok ()
  | extra => .error (.usage (.extraArguments c extra))

/-- The selection of a name. -/
def selectionOf (value : String) : Except Rejection Selection :=
  match Selection.names.lookup value with
  | some s => .ok s
  | none =>
    .error (.usage (.notOneOf (.command .render) "--artifact" value (Selection.names.map (·.1))))

/-- Reads the arguments of a command. Options are checked before positional arguments, and too many
of these last. -/
def readRequest (s : Snapshot) (c : Command) (args : List String) : Except Rejection Request := do
  let callable := Callable.command c
  let split ← (splitArguments callable.options true args).mapError fun e =>
    Rejection.usage (.split callable e)
  if split.has "--help" then return .help c
  let language := (split.value? "--language").getD ""
  match c with
  | .init =>
    match split.positionals with
    | [] => throw (.usage (.missingArgument callable))
    | project :: _ =>
      refuseExtra callable split.positionals
      return .init {
        project, language
        description := (split.value? "--description").getD Scaffold.defaultDescription
        author := (split.value? "--author").getD ""
        output := (split.value? "--output").getD "." }
  | .scan =>
    let path ← checkPath s callable .file (firstOr "." split.positionals)
    refuseExtra callable split.positionals
    return .scan path language (split.has "--json")
  | .render =>
    let selection ← selectionOf ((split.value? "--artifact").getD "both")
    let path ← checkPath s callable .file (firstOr "." split.positionals)
    refuseExtra callable split.positionals
    return .render path (split.value? "--name") language selection
  | .validate =>
    let path ← checkPath s callable .directory (firstOr Artifact.primaryFile split.positionals)
    refuseExtra callable split.positionals
    return .validate path

/-- Does what is asked for. -/
def perform (w : Surroundings) : Request → FileTree × Traced Stop String
  | .help c => (w.snapshot.tree, return (Callable.command c).usageLine)
  | .init r => init w r
  | .scan path language asJson => (w.snapshot.tree, scan w path language asJson)
  | .render path name language selection =>
    (w.snapshot.tree, render w path name language selection)
  | .validate path => (w.snapshot.tree, validate w path)

/-- The log lines of events. -/
def logLines (l : Log.Logger) (clock : Log.Clock) (events : List Event) : String :=
  String.join (events.map fun e => l.write ⟨clock, Event.logger, e.severity, e.name, e.fields⟩)

/-- What a run leaves behind, given what its command did. -/
def outcomeOf (l : Log.Logger) (clock : Log.Clock) (tree : FileTree) (t : Traced Stop String) :
    Outcome :=
  let log := logLines l clock t.events
  match t.outcome with
  | .ok output => { exit := 0, output := stripSequences output, errors := log, tree }
  | .error (.complaint message) =>
    { exit := 1, errors := log ++ stripSequences (line ("Error: " ++ message)), tree }
  | .error (.report text) => { exit := 1, errors := log ++ stripSequences text, tree }
  | .error (.crash c) => { exit := 1, errors := log, tree, crash := some c }

/-- What a run leaves behind when its arguments are not taken. -/
def rejected (tree : FileTree) : Rejection → Outcome
  | .usage e => { exit := 2, errors := stripSequences e.report, tree }
  | .nulInPath => { exit := 1, tree, crash := some (.file .nulInPath) }

/-- Runs a command under a logger that has been set up. -/
def runCommand (w : Surroundings) (l : Log.Logger) (c : Command) (args : List String) : Outcome :=
  match readRequest w.snapshot c args with
  | .error r => rejected w.snapshot.tree r
  | .ok request =>
    let done := perform w request
    outcomeOf l w.clock done.1 done.2

/-- What the arguments of the program ask for. -/
inductive Order where
  | usage
  | version
  | run (verbose : Bool) (c : Command) (args : List String)

/-- Splits the arguments of the program; the first that is no option ends its options. -/
def splitProgram (args : List String) : Except UsageError Split :=
  (splitArguments Callable.program.options false args).mapError (.split .program)

/-- The first option that asks about the program itself. -/
def Split.about? (s : Split) : Option Order :=
  s.options.findSome? fun o =>
    if o.1.long = "--help" then some .usage
    else if o.1.long = "--version" then some .version
    else none

/-- Reads the arguments of the program. A name that no command has is read once more, as an option
if it looks like one. -/
def readOrder (args : List String) : Except UsageError Order := do
  let split ← splitProgram args
  match split.about?, split.positionals with
  | some about, _ => return about
  | none, [] => throw .missingCommand
  | none, name :: rest =>
    match Command.withName? name with
    | some c => return .run (split.has "--verbose") c rest
    | none =>
      match (← splitProgram split.positionals).about? with
      | some about => return about
      | none => throw (.noSuchCommand name)

/-- The version of the program. -/
def versionText : String := "phantom, version 0.1.0"

/-- Runs the program. -/
def run (w : Surroundings) (args : List String) : Outcome :=
  let tree := w.snapshot.tree
  if args.isEmpty then { exit := 2, errors := Callable.program.usageLine, tree }
  else
    match readOrder args with
    | .error e => rejected tree (.usage e)
    | .ok .usage => { exit := 0, output := Callable.program.usageLine, tree }
    | .ok .version => { exit := 0, output := line versionText, tree }
    | .ok (.run verbose c args) =>
      match Log.Logger.setUp {} (if verbose then some "DEBUG" else none) w.environment with
      | (_, .error e) => { exit := 1, tree, crash := some (.unknownLevel e.message) }
      | (l, .ok ()) => runCommand w l c args

end Fingerprint.CommandLine
