/-
The program. It reads the file tree where a command looks, runs the command,
writes what the command has changed and prints what it prints. Of the files
only those are read whose content a command looks at.
-/
import Fingerprint.CommandLine.Run
import Std.Time.DateTime.Timestamp

namespace Fingerprint.Program

open Text

/-- The names of the files whose content a command looks at, the arguments left aside. -/
def contentNames : List String :=
  Ecosystem.all.map Ecosystem.manifestName ++ Detection.processFile :: Detection.configFiles

/-- The path that arguments lead to. -/
def target? (s : Snapshot) (args : List String) : Option Path :=
  match CommandLine.readOrder args with
  | .ok (.run _ c args) =>
    match CommandLine.readRequest s c args with
    | .ok (.init r) => some r.directory
    | .ok (.scan path _ _) | .ok (.render path _ _ _) | .ok (.validate path) =>
      some (.ofString path)
    | _ => none
  | _ => none

/-- The location that components lead to, whether or not anything is there. -/
def locationOf (t : FileTree) (p : Path) (n : Nat) : Location :=
  (p.parts.take n).foldl FileTree.step (t.start p)

/-- The snapshot with what stands at a location, and down to a depth below it. The content of a file
is read if it is wanted. -/
def load (wanted : Location → Bool) : Nat → Location → Snapshot → IO Snapshot
  | depth, l, s => do
    let path := l.foldl (· / ·) (← IO.FS.realPath "/")
    if ← path.isDir then
      let s := { s with tree := { s.tree with entries := s.tree.entries.put l .directory } }
      match depth with
      | 0 => return s
      | depth + 1 =>
        (← path.readDir).foldlM (fun s e => load wanted depth (l ++ [e.fileName]) s) s
    else if ← path.pathExists then
      let read : IO (Option ByteArray) :=
        try some <$> IO.FS.readBinFile path catch _ => return none
      let bytes? ← if wanted l then read else pure (some .empty)
      let entry := Entry.file (bytes?.getD .empty).toList
      return { s with
        tree := { s.tree with entries := s.tree.entries.put l entry }
        unreadable := if bytes?.isNone then l.getLastD "" :: s.unreadable else s.unreadable }
    else return s

/-- The snapshot of what arguments lead to, with all that is on the way. Commands look at what is
directly in a directory, and at the sources one level below. -/
def loadTarget (args : List String) (s : Snapshot) : IO Snapshot := do
  let some p := target? s args | return s
  let l := locationOf s.tree p p.parts.length
  let wanted (k : Location) : Bool := k = l || contentNames.contains (k.getLastD "")
  let s ← (List.range p.parts.length).foldlM (fun s n => load wanted 0 (locationOf s.tree p n) s) s
  load wanted 2 l s

/-- The settings that are set. -/
def readEnvironment : IO Environment := do
  let mut env : Environment := []
  for key in [Settings.logLevelVariable, Settings.logFormatVariable, Settings.isolationVariable,
      Settings.timeoutVariable, Settings.memoryVariable] do
    if let some value ← IO.getEnv key then
      env := (key, value) :: env
  return env

/-- Writes what has changed. -/
def writeChanges (before after : FileTree) : IO Unit := do
  for (l, entry) in (before.changes after).entries.entries do
    let path := "/" ++ joinStrings "/" l
    match entry with
    | .directory => IO.FS.createDirAll path
    | .file bytes => IO.FS.writeBinFile path ⟨bytes.toArray⟩

/-- Runs the program on its arguments. -/
def run (args : List String) : IO UInt32 := do
  let here := Path.ofString (← IO.currentDir).toString
  let snapshot ← loadTarget args { tree := { entries := .empty, current := here.parts } }
  let now := Calendar.Moment.ofEpoch
    (← Std.Time.Timestamp.now).toSecondsSinceUnixEpoch.val.toNat
  let outcome := CommandLine.run
    { snapshot, environment := ← readEnvironment, now, clock := Log.clockAt now }
    args
  writeChanges snapshot.tree outcome.tree
  (← IO.getStdout).putStr outcome.output
  (← IO.getStderr).putStr outcome.errors
  if let some crash := outcome.crash then
    (← IO.getStderr).putStr (crash.message ++ "\n")
  return outcome.exit.toUInt32

end Fingerprint.Program

/-- Runs the program on its arguments. -/
def main (args : List String) : IO UInt32 := Fingerprint.Program.run args
