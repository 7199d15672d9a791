/-
Fingerprinting a directory. What the manifests say is taken in by order of
precedence, then the fallbacks are tried; a language that no source names
follows from the extension of the entrypoint. A language forced from outside
comes before everything, and an unknown one still counts as forced.
-/
import Fingerprint.Detection.Fallback
import Fingerprint.Manifest.Reading
import Fingerprint.Manifest.Registry

namespace Fingerprint.Detection

open Text

/-- Why a directory has no fingerprint. -/
inductive Failure where
  | notFound (path : String)
  | notDirectory (path : String)
  | notReadable (path : String)
  | manifest (failure : Manifest.Failure)
  deriving DecidableEq, Repr

/-- The failure of a question about a file. -/
def Failure.ofFile (e : FileError) : Failure := .manifest (.file e)

/-- The language of a forced name; a blank name forces nothing. -/
def forcedLanguage (forced : String) : Option Language :=
  let name := Language.normalName forced
  if name.isEmpty then none else some ((Language.ofName? name).getD .unknown)

/-- The forced language, an unknown name being reported. -/
def forceLanguage {ε : Type} (forced : String) : Traced ε (Option Language) := do
  let name := Language.normalName forced
  if !name.isEmpty && (Language.ofName? name).isNone then
    Traced.report (.unknownForcedLanguage name)
  return forcedLanguage forced

/-- The language that a file extension stands for. -/
def extensionLanguage (suffix : String) : Language :=
  if suffix = ".ts" ∨ suffix = ".tsx" then .ts
  else if suffix = ".py" then .python
  else if suffix = ".rs" then .rust
  else .js

/-- The language that an entrypoint stands for. -/
def entryLanguage (entrypoint : String) : Language :=
  extensionLanguage (Path.ofString entrypoint).suffix

/-- The file whose presence means that secrets are needed. -/
def environmentFile : String := ".env"

/-- The packages that read secrets when they run. -/
def sensitivePackages : List String := ["tauri", "electron", "next"]

/-- Whether a project needs secrets when it runs. -/
def needsSecrets (tree : FileTree) (root : Path) (dependencies : Dependencies) : Bool :=
  tree.isFile (root / environmentFile)
    || sensitivePackages.any ((dependencies.get? .node).getD ∅).contains

/-- The fingerprint that follows from what is known. -/
def conclude (tree : FileTree) (root : Path) (r : Resolution) : Detection where
  language := r.language.getD (entryLanguage r.entrypoint)
  entrypoint := if r.entrypoint.isEmpty then defaultEntry else r.entrypoint
  guessed := if r.entrypoint.isEmpty then true else r.guessed
  dependencies := r.dependencies
  secretsRequired := needsSecrets tree root r.dependencies

/-- The fingerprint that follows, if the file of secrets can be asked for. -/
def finalize (tree : FileTree) (root : Path) (r : Resolution) : Except FileError Detection := do
  tree.requireShort (root / environmentFile)
  return conclude tree root r

/-- What the manifest of an ecosystem says; one that cannot be read is reported and says nothing. -/
def readManifest (s : Snapshot) (e : Ecosystem) (p : Path) : Traced Failure Hints :=
  match s.readLossy p with
  | .error error => do
    Traced.report (.manifestUnreadable p.name error.message)
    return .silent e
  | .ok text => do
    Traced.report (.manifestFound p.name e)
    (Manifest.read e (fun name => s.tree.checkFile (p.parent / name)) text).mapError .manifest

/-- Reads manifests in order. -/
def readManifests (s : Snapshot) : List (Ecosystem × Path) → Traced Failure (List Hints)
  | [] => return []
  | m :: rest => do
    let h ← readManifest s m.1 m.2
    let hs ← readManifests s rest
    return h :: hs

/-- Fails unless a path leads to a directory that can be looked into. -/
def checkDirectory (s : Snapshot) (root : Path) : Except Failure Unit := do
  (s.tree.requireShort root).mapError .ofFile
  if !s.tree.pathExists root then throw (.notFound root.toString)
  if !s.tree.isDirectory root then throw (.notDirectory root.toString)
  if s.denied then throw (.notReadable root.toString)

/-- The fingerprint of a directory. -/
def resolve (s : Snapshot) (root : Path) (forced : String) : Traced Failure Detection := do
  Traced.ofExcept (checkDirectory s root)
  let language ← forceLanguage forced
  let found ← Traced.ofExcept ((Registry.full.discover s.tree root).mapError .ofFile)
  let hints ← readManifests s found
  let start := (Resolution.mk language "" false ∅).adoptAll hints
  let known ← (fallBack s root start).mapError .ofFile
  let result ← Traced.ofExcept ((finalize s.tree root known).mapError .ofFile)
  Traced.report (.resolved root.toString result.language result.entrypoint result.guessed
    result.dependencies.keys)
  return result

/-- Why a directory cannot be looked into, if that is the failure. -/
def Failure.reason? : Failure → Option String
  | .notFound _ => some "not found"
  | .notDirectory _ => some "is not a directory"
  | .notReadable _ => some "is not readable"
  | .manifest _ => none

/-- The wording of a failure. -/
def Failure.message : Failure → String
  | .notFound path => s!"Project directory not found: {path}"
  | .notDirectory path => s!"Project directory is not a directory: {path}"
  | .notReadable path => s!"Project directory is not readable: {path}"
  | .manifest failure => failure.message

end Fingerprint.Detection
