/-
Where an entrypoint may come from when no manifest names one: the process
file, the configuration files, and the places where sources conventionally
begin. A file that cannot be read is reported and counts as absent; a path too
long to be asked for ends the search.
-/
import Fingerprint.Detection.ConfigEntry
import Fingerprint.Detection.Resolution
import Fingerprint.FileTree.Snapshot
import Fingerprint.Trace

namespace Fingerprint.Detection

/-- The process file. -/
def processFile : String := "Procfile"

/-- The configuration files, in the order in which they are tried. -/
def configFiles : List String := [".config.ts", ".config.toml"]

/-- The places where sources conventionally begin, in the order in which they are tried. -/
def conventionalEntries : List String :=
  ["src/main.tsx", "src/main.ts", "src/index.tsx", "src/index.ts", "src/index.js", "src/main.js",
    "main.py", "app.py"]

/-- The entrypoint of a project about which nothing is known. -/
def defaultEntry : String := "src/main.tsx"

/-- The text of a file, if it is there and can be read. -/
def readIfFile (s : Snapshot) (p : Path) : Traced FileError (Option String) := do
  if ← Traced.ofExcept (s.tree.checkFile p) then
    match s.readLossy p with
    | .ok text => return some text
    | .error e => do
      Traced.report (.fileUnreadable p.name e.message)
      return none
  else return none

/-- Takes the entrypoint of the process file, which is not a guess. -/
def tryProcessFile (s : Snapshot) (root : Path) (r : Resolution) :
    Traced FileError Resolution := do
  match ← readIfFile s (root / processFile) with
  | some text => return r.withEntrypoint (processEntry text) false
  | none => return r

/-- Takes the entrypoint of the first of the named configuration files that has one, as a guess. -/
def tryConfigFiles (s : Snapshot) (root : Path) :
    List String → Resolution → Traced FileError Resolution
  | [], r => return r
  | name :: names, r => do
    if !r.entrypoint.isEmpty then return r
    match ← readIfFile s (root / name) with
    | some text => tryConfigFiles s root names (r.withEntrypoint (configEntry text) true)
    | none => tryConfigFiles s root names r

/-- The first of several places at which a file stands. -/
def firstFile? (tree : FileTree) (root : Path) : List String → Except FileError (Option String)
  | [] => .ok none
  | c :: cs => do
    if ← tree.checkFile (root / c) then return some c
    firstFile? tree root cs

/-- Takes the first conventional place at which a file stands, as a guess. -/
def tryConventions (tree : FileTree) (root : Path) (r : Resolution) :
    Except FileError Resolution := do
  if !r.entrypoint.isEmpty then return r
  match ← firstFile? tree root conventionalEntries with
  | some c => return r.withEntrypoint c true
  | none => return r

/-- All of these, in order. -/
def fallBack (s : Snapshot) (root : Path) (r : Resolution) : Traced FileError Resolution := do
  let r ← tryProcessFile s root r
  let r ← tryConfigFiles s root configFiles r
  Traced.ofExcept (tryConventions s.tree root r)

end Fingerprint.Detection
