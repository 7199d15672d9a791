/-
What the commands do. A command looks at a file tree, reports events and gives
the text that it prints, or stops with a complaint, a report, or a failure
that nobody foresaw. Only `init` changes the tree, and what it has changed
before it stops stays.
-/
import Fingerprint.Artifact.Check
import Fingerprint.Artifact.Render
import Fingerprint.Detection.Resolve
import Fingerprint.Log.Line
import Fingerprint.Scaffold.Files
import Fingerprint.Scaffold.Write

namespace Fingerprint.CommandLine

open Text

/-- A failure that no command foresees. -/
inductive Crash where
  | unknownLevel (message : String)
  | tooManyDigits (count : Nat)
  | outOfRange
  | file (error : FileError)
  | decoding (fault : Utf8.Fault)
  | encoding (fault : EncodingFault)
  deriving DecidableEq, Repr

/-- The wording of a failure. -/
def Crash.message : Crash → String
  | unknownLevel message => message
  | tooManyDigits count => Decimal.tooManyDigitsMessage count
  | outOfRange => Calendar.outOfRangeMessage
  | file error => error.message
  | decoding fault => fault.message
  | encoding fault => fault.message

/-- Why a command stops. -/
inductive Stop where
  | complaint (message : String)
  | report (text : String)
  | crash (c : Crash)
  deriving DecidableEq, Repr

/-- What a command works with: the files, the settings, the time and the clock of the log. -/
structure Surroundings where
  snapshot : Snapshot
  environment : Environment
  now : Calendar.Moment
  clock : Log.Clock

/-- A text with its end of line. -/
def line (s : String) : String := s ++ "\n"

/-- The fingerprint of a directory; a directory that cannot be looked into is a complaint. -/
def detect (s : Snapshot) (root : Path) (language : String) : Traced Stop Detection :=
  (Detection.resolve s root language).mapError fun f =>
    match f with
    | .manifest (.tooManyDigits count) => .crash (.tooManyDigits count)
    | .manifest (.file error) => .crash (.file error)
    | f => .complaint f.message

/-- The policy of the settings. -/
def policy (env : Environment) : Except Stop RuntimePolicy :=
  (RuntimePolicy.ofEnvironment env).mapError fun e =>
    .complaint ("Invalid runtime setting: " ++ e.message)

/-- The two documents of a fingerprint. -/
def documents (project : String) (d : Detection) (now : Calendar.Moment) (p : RuntimePolicy) :
    Except Stop Artifact.Documents :=
  match Artifact.render? project d now p with
  | some docs => .ok docs
  | none => .error (.crash .outOfRange)

/-- The packages of one ecosystem, for reading. -/
def ecosystemText (l : Ecosystem × List (String × String)) : String :=
  line ("  " ++ l.1.name) ++ String.join (l.2.map fun p => line ("    " ++ p.1 ++ " " ++ p.2))
    ++ line ""

/-- A fingerprint for reading. -/
def detectionText (d : Detection) : String :=
  let found := d.listing.filter fun l => !l.2.isEmpty
  let total := found.foldr (fun l n => l.2.length + n) 0
  line ("Language:   " ++ d.language.name)
    ++ line ("Entrypoint: " ++ d.entrypoint ++ (if d.guessed then " (guessed)" else ""))
    ++ line ("Secrets:    " ++ (if d.secretsRequired then "required at runtime" else "none"))
    ++ (if found.isEmpty then line "\nNo dependencies found."
      else
        line s!"\nFound {total} dependencies in {found.length} ecosystem(s)\n"
          ++ String.join (found.map ecosystemText))

/-- Prints the fingerprint of a directory. -/
def scan (w : Surroundings) (path language : String) (asJson : Bool) : Traced Stop String := do
  let d ← detect w.snapshot (.ofString path) language
  return if asJson then line d.toJson.pretty else detectionText d

/-- Which documents are printed. -/
inductive Selection where
  | manifest
  | lock
  | both
  deriving DecidableEq, Repr

/-- The names of the selections. -/
def Selection.names : List (String × Selection) :=
  [("manifest", .manifest), ("lock", .lock), ("both", .both)]

/-- The selected documents as text. -/
def Selection.text (docs : Artifact.Documents) : Selection → String
  | manifest => docs.primary
  | lock => docs.environment
  | both => docs.primary ++ line "" ++ docs.environment

/-- The name of the directory that a path leads to, whether or not it is there. -/
def directoryName (tree : FileTree) (path : Path) : String :=
  (path.parts.foldl FileTree.step (tree.start path)).getLastD ""

/-- Prints the documents of a directory. -/
def render (w : Surroundings) (path : String) (name : Option String) (language : String)
    (selection : Selection) : Traced Stop String := do
  let root := Path.ofString path
  let project := ((name.filter fun n => !n.isEmpty)).getD (directoryName w.snapshot.tree root)
  let d ← detect w.snapshot root language
  let p ← Traced.ofExcept (policy w.environment)
  let docs ← Traced.ofExcept (documents project d w.now p)
  return selection.text docs

/-- Checks a manifest file. -/
def validate (w : Surroundings) (path : String) : Traced Stop String :=
  match Artifact.load w.snapshot (.ofString path) with
  | .ok _ => return line (path ++ " is valid")
  | .error (.file (.refused .noEntry _)) => .fail (.complaint ("Manifest not found: " ++ path))
  | .error (.file error) => .fail (.crash (.file error))
  | .error (.encoding fault) => .fail (.crash (.decoding fault))
  | .error (.tooManyDigits count) => .fail (.crash (.tooManyDigits count))
  | .error (.invalid _ problems) =>
    .fail (.report (line "Manifest validation failed:"
      ++ String.join (problems.map fun p => line ("   - " ++ p.message))))

/-- What `init` is told. -/
structure InitRequest where
  project : String
  language : String := ""
  description : String := Scaffold.defaultDescription
  author : String := ""
  output : String := "."
  deriving DecidableEq

/-- The directory of a project. -/
def InitRequest.directory (r : InitRequest) : Path := Path.ofString r.output / r.project

/-- What `init` has found out before it writes anything but the project directory. -/
structure Plan where
  detection : Detection
  documents : Artifact.Documents
  scaffold : List (String × String)

/-- The documents of the plan as files. -/
def Plan.manifests (p : Plan) : List (String × String) :=
  [(Artifact.primaryFile, p.documents.primary), (Artifact.snapshotFile, p.documents.environment)]

/-- Looks at the project directory. Files that are there are not written again. -/
def plan (w : Surroundings) (tree : FileTree) (r : InitRequest) (policy : RuntimePolicy) :
    Traced Stop Plan := do
  let dir := r.directory
  let wasEmpty ← Traced.ofExcept
    ((tree.isEmptyDirectory dir).mapError fun e => .crash (.file e))
  let d ← detect { w.snapshot with tree } dir r.language
  let docs ← Traced.ofExcept (documents r.project d w.now policy)
  let files := Scaffold.files r.project d.language r.description r.author wasEmpty
  return ⟨d, docs, files.filter fun f => !tree.pathExists (dir / f.1)⟩

/-- What `init` prints when it is done. -/
def initText (r : InitRequest) (p : Plan) : String :=
  let dir := r.directory.toString
  let generated := p.scaffold.map (·.1) ++ [Artifact.primaryFile, Artifact.snapshotFile]
  let next := match p.detection.language with
    | .js | .ts | .python => Scaffold.installCommand p.detection.language
    | _ => "review " ++ Artifact.primaryFile ++ " for your runtime"
  line ("Project '" ++ r.project ++ "' initialized")
    ++ line ("Project directory: " ++ dir)
    ++ line ("Language: " ++ p.detection.language.name ++ ", entrypoint: " ++ p.detection.entrypoint)
    ++ (if p.detection.guessed then
        line ("Entrypoint was guessed; review 'entry' in " ++ Artifact.primaryFile) else "")
    ++ line ("Generated: " ++ joinStrings ", " generated)
    ++ line "Next steps:"
    ++ line ("   1. cd " ++ dir)
    ++ line ("   2. " ++ next)

/-- A failed write is a complaint if an operation was refused. -/
def stopOfWrite (e : Scaffold.WriteError) : Stop :=
  match e.error with
  | .file (.refused _ _) => .complaint e.message
  | .file .nulInPath => .crash (.file .nulInPath)
  | .encoding fault => .crash (.encoding fault)

/-- Writes what is planned: the documents, over those that are there, and then the scaffold. -/
def carryOut (tree : FileTree) (r : InitRequest) (p : Plan) : FileTree × Traced Stop String :=
  let first := Scaffold.writeFiles tree r.directory p.manifests
  match first.2.outcome with
  | .error e => (first.1, ⟨first.2.events, .error (stopOfWrite e)⟩)
  | .ok _ =>
    let second := Scaffold.writeFiles first.1 r.directory p.scaffold
    (second.1,
      ⟨first.2.events ++ second.2.events,
        (second.2.outcome.mapError stopOfWrite).map fun _ => initText r p⟩)

/-- Makes a project directory, and writes the documents and the missing files of the scaffold. -/
def init (w : Surroundings) (r : InitRequest) : FileTree × Traced Stop String :=
  let tree := w.snapshot.tree
  match policy w.environment with
  | .error e => (tree, .fail e)
  | .ok policy =>
    match tree.makePath r.directory with
    | (tree, .error (.refused why path)) =>
      (tree, .fail (.complaint
        ("Failed to create project directory: " ++ (FileError.refused why path).message)))
    | (tree, .error .nulInPath) => (tree, .fail (.crash (.file .nulInPath)))
    | (tree, .ok ()) =>
      let planned := plan w tree r policy
      match planned.outcome with
      | .error e => (tree, ⟨planned.events, .error e⟩)
      | .ok p =>
        let done := carryOut tree r p
        (done.1, ⟨planned.events ++ done.2.events, done.2.outcome⟩)

end Fingerprint.CommandLine
