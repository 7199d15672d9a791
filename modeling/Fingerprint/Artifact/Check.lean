/-
Checking a primary manifest: which of its requirements a document violates, in
a fixed order, and loading one from a file. A text that is no document has
that one problem.
-/
import Fingerprint.Artifact.RuntimePolicy
import Fingerprint.FileTree.Snapshot
import Fingerprint.Language
import Fingerprint.Toml.Document

namespace Fingerprint.Artifact

open Toml Text

/-- A violated requirement. -/
inductive Problem where
  | notDocument (error : Toml.ReadError)
  | noRepository
  | noRepositoryKey (key : String)
  | unsupportedLanguage (name : String)
  | noRuntime
  | isolation
  | timeout
  | memory
  | secrets
  | dependencies
  | ecosystem (name : String)
  deriving DecidableEq, Repr

/-- The wording of a problem. -/
def Problem.message : Problem → String
  | notDocument error => s!"not valid TOML: {error.message}"
  | noRepository => "[repository] section is required"
  | noRepositoryKey key => s!"repository.{key} is required"
  | unsupportedLanguage name => s!"repository.language '{name}' is not supported"
  | noRuntime => "[runtime] section is required"
  | isolation => "runtime.isolation must be 'v8' or 'wasm'"
  | timeout => "runtime.timeout must be a positive integer"
  | memory => "runtime.memory must be a positive integer"
  | secrets => "secrets.runtime must be true or false"
  | dependencies => "[dependencies] must be a table"
  | ecosystem name => s!"dependencies.{name} must map names to version strings"

/-- The keys that the repository section must give. -/
def repositoryKeys : List String := ["project", "version", "entry", "language"]

/-- The members of a table that a table holds. -/
def section? (ms : Members) (name : String) : Option Members :=
  Entries.get? name ms >>= Value.table?

/-- A string that a table holds and that is not empty. -/
def text? (ms : Members) (name : String) : Option String :=
  (Entries.get? name ms >>= Value.string?).filter fun s => !s.isEmpty

/-- Whether a table holds a positive integer. -/
def holdsPositive (ms : Members) (name : String) : Bool :=
  match Entries.get? name ms with
  | some (.int n) => decide (0 < n)
  | _ => false

/-- Whether a table holds a truth value. -/
def holdsBoolean (ms : Members) (name : String) : Bool :=
  match Entries.get? name ms with
  | some (.bool _) => true
  | _ => false

/-- Whether a value is a table of strings. -/
def isTextTable (v : Value) : Bool :=
  match v with
  | .table ms => ms.all fun m => m.2.string?.isSome
  | _ => false

/-- The problems of the repository section. -/
def repositoryProblems (doc : Members) : List Problem :=
  let repository := (section? doc "repository").getD []
  (if (section? doc "repository").isNone then [.noRepository] else [])
    ++ (repositoryKeys.filter fun k => (text? repository k).isNone).map .noRepositoryKey
    ++ match text? repository "language" with
      | some name => if (Language.withName? name).isNone then [.unsupportedLanguage name] else []
      | none => []

/-- The problems of the runtime section. -/
def runtimeProblems (doc : Members) : List Problem :=
  match section? doc "runtime" with
  | none => [.noRuntime]
  | some runtime =>
    (if ((text? runtime "isolation") >>= Isolation.withName?).isNone then [.isolation] else [])
      ++ (if holdsPositive runtime "timeout" then [] else [.timeout])
      ++ (if holdsPositive runtime "memory" then [] else [.memory])

/-- The problems of the secrets section. -/
def secretsProblems (doc : Members) : List Problem :=
  if (section? doc "secrets").any (holdsBoolean · "runtime") then [] else [.secrets]

/-- The problems of the tables of packages. -/
def dependencyProblems (doc : Members) : List Problem :=
  match Entries.get? "dependencies" doc with
  | none => []
  | some (.table tables) => (tables.filter fun m => !isTextTable m.2).map fun m => .ecosystem m.1
  | some _ => [.dependencies]

/-- The problems of a document. -/
def problemsOf (doc : Members) : List Problem :=
  repositoryProblems doc ++ runtimeProblems doc ++ secretsProblems doc ++ dependencyProblems doc

/-- The problems of a text; only an integer of too many digits keeps it from being checked. -/
def check (text : String) : Except Nat (List Problem) :=
  match Toml.read text with
  | .ok doc => .ok (problemsOf doc)
  | .error (.tooManyDigits count) => .error count
  | .error error => .ok [.notDocument error]

/-- Why a manifest is not loaded. -/
inductive LoadError where
  | file (error : FileError)
  | encoding (fault : Utf8.Fault)
  | tooManyDigits (count : Nat)
  | invalid (path : Path) (problems : List Problem)
  deriving DecidableEq, Repr

/-- The wording of an error. -/
def LoadError.message : LoadError → String
  | file error => error.message
  | encoding fault => fault.message
  | tooManyDigits count => Decimal.tooManyDigitsMessage count
  | invalid path problems =>
    s!"Manifest {path.toString} is invalid ({problems.length} problem(s)): "
      ++ joinStrings "; " (problems.map Problem.message)

/-- The document of a text that has no problem. -/
def documentOf (path : Path) (text : String) : Except LoadError Members := do
  let problems ← (check text).mapError .tooManyDigits
  if problems.isEmpty then
    match Toml.read text with
    | .ok doc => return doc
    | .error e => throw (.invalid path [.notDocument e])
  else throw (.invalid path problems)

/-- Loads a manifest. -/
def load (s : Snapshot) (path : Path) : Except LoadError Members := do
  let bytes ← (s.readBytes path).mapError .file
  let chars ← (Utf8.decode bytes).mapError .encoding
  documentOf path (String.ofList (unifyBreaks chars))

end Fingerprint.Artifact
