/-
The two documents made from a fingerprint: the primary manifest and the
environment snapshot. Ecosystems stand in order of precedence and packages in
ascending order; an ecosystem without packages has no table.
-/
import Fingerprint.Artifact.RuntimePolicy
import Fingerprint.Calendar.Moment
import Fingerprint.Detection.Result
import Fingerprint.Toml.Quoted

namespace Fingerprint.Artifact

open Text Toml

/-- The file of the primary manifest. -/
def primaryFile : String := "phantom.toml"

/-- The file of the environment snapshot. -/
def snapshotFile : String := "phantom-lock"

/-- The two documents. -/
structure Documents where
  primary : String
  environment : String
  deriving DecidableEq, Repr

/-- The command that sets a project up, and what runs it. -/
def setup : Language → String × String
  | .js | .ts => ("npm install", "node")
  | .python => ("pip install -r requirements.txt", "python")
  | .rust => ("cargo build", "cargo")
  | .ruby => ("bundle install", "ruby")
  | .go => ("go mod download", "go")
  | .php => ("composer install", "php")
  | .swift => ("pod install", "swift")
  | .unknown => ("# install dependencies for your runtime", "custom")

/-- A line that gives a key a string. -/
def assign (key value : String) : List Char := key.toList ++ " = ".toList ++ quote value.toList

/-- The tables of the ecosystems that have packages, an empty line after each. -/
def dependencyTables (d : Detection) : List (List Char) :=
  d.listing.flatMap fun l =>
    if l.2.isEmpty then []
    else
      ("[dependencies.".toList ++ l.1.name.toList ++ [']'])
        :: l.2.map (fun p => formatKey p.1.toList ++ " = ".toList ++ quote p.2.toList) ++ [[]]

/-- What stands after a guessed entrypoint. -/
def guessComment : List Char := " # please update to correct entrypoint".toList

/-- Lines as a text, each ended. -/
def ofLines (ls : List (List Char)) : String := String.ofList (ls.flatMap (· ++ ['\n']))

/-- The lines of the primary manifest. -/
def primaryLines (project : String) (d : Detection) (timestamp : String) (policy : RuntimePolicy) :
    List (List Char) :=
  [ "[repository]".toList,
    assign "project" project,
    assign "version" "0.1.0",
    assign "entry" d.entrypoint ++ (if d.guessed then guessComment else []),
    assign "language" d.language.name,
    assign "created_at" timestamp,
    [] ]
  ++ dependencyTables d
  ++ [ "[runtime]".toList,
    assign "language" d.language.name,
    assign "isolation" policy.isolation.name,
    "timeout = ".toList ++ Decimal.natText policy.timeoutMs,
    "memory = ".toList ++ Decimal.natText policy.memoryMb,
    [],
    "[secrets]".toList,
    "runtime = ".toList ++ (if d.secretsRequired then "true".toList else "false".toList) ]

/-- The lines of the environment snapshot. -/
def environmentLines (project : String) (d : Detection) (timestamp : String) : List (List Char) :=
  [ "# Phantom Lock File".toList,
    "# Generated for environment setup and dependency injection".toList,
    [],
    assign "project" project,
    assign "language" d.language.name,
    assign "generated_at" timestamp,
    [],
    "[environment]".toList,
    assign "setup" (setup d.language).1,
    assign "runtime" (setup d.language).2,
    [],
    "[dependencies]".toList ]
  ++ dependencyTables d

/-- Both documents under a timestamp. -/
def documents (project : String) (d : Detection) (timestamp : String) (policy : RuntimePolicy) :
    Documents where
  primary := ofLines (primaryLines project d timestamp policy)
  environment := ofLines (environmentLines project d timestamp)

/-- Both documents at a moment; none if the moment has no timestamp. -/
def render? (project : String) (d : Detection) (now : Calendar.Moment) (policy : RuntimePolicy) :
    Option Documents :=
  now.timestamp?.map fun t => documents project d t policy

end Fingerprint.Artifact
