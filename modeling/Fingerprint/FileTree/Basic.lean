/-
File trees as values. A tree holds directories and files under their
locations, a location being the names on the way down from the root. One of
them is the current directory, which is always there with all directories
above it; these hold the way down to it, and otherwise what has been put there.

A walk along a path begins at the root if the path is absolute, and in the
current directory if not. It goes down by names and up by double dots, which
stay at the root, and needs a directory at every step. Names and whole paths
have a greatest length, counted in bytes.
-/
import Fingerprint.Path
import Fingerprint.Table
import Fingerprint.Text.Quoted

namespace Fingerprint

open Text

/-- The names on the way down from the root. -/
abbrev Location := List String

/-- What stands at a location. -/
inductive Entry where
  | directory
  | file (bytes : List UInt8)
  deriving DecidableEq

/-- Directories and files by location, and the location of the current directory. -/
structure FileTree where
  entries : Table Location Entry
  current : Location := []

/-- Why an operation on files is refused. -/
inductive Refusal where
  | noEntry
  | accessDenied
  | alreadyExists
  | notDirectory
  | isDirectory
  | nameTooLong
  deriving DecidableEq, Repr

/-- The number of a refusal. -/
def Refusal.number : Refusal → Nat
  | .noEntry => 2
  | .accessDenied => 13
  | .alreadyExists => 17
  | .notDirectory => 20
  | .isDirectory => 21
  | .nameTooLong => 36

/-- The words for a refusal. -/
def Refusal.words : Refusal → String
  | .noEntry => "No such file or directory"
  | .accessDenied => "Permission denied"
  | .alreadyExists => "File exists"
  | .notDirectory => "Not a directory"
  | .isDirectory => "Is a directory"
  | .nameTooLong => "File name too long"

/-- A failed operation on files: refused at a path, or given a name that holds NUL. -/
inductive FileError where
  | refused (why : Refusal) (path : Path)
  | nulInPath
  deriving DecidableEq, Repr

/-- The wording of a failed operation. -/
def FileError.message : FileError → String
  | .refused why path =>
    s!"[Errno {why.number}] {why.words}: {quotedString path.toString}"
  | .nulInPath => "embedded null byte"

namespace FileTree

/-- The tree of an empty current directory of this name, below the root. -/
def empty (name : String) : FileTree := ⟨.empty, [name]⟩

instance : Inhabited FileTree := ⟨empty ""⟩

/-- The most bytes of one name. -/
def nameLimit : Nat := 255

/-- The most bytes of a whole path. -/
def pathLimit : Nat := 4095

/-- Whether a location is the current directory or lies above it. -/
def isAbove (t : FileTree) (l : Location) : Bool := l.isPrefixOf t.current

/-- What stands at a location. -/
def at? (t : FileTree) (l : Location) : Option Entry :=
  if t.isAbove l then some .directory else t.entries.get? l

/-- The location one component further. The root is its own parent. -/
def step (l : Location) (part : String) : Location :=
  if part = ".." then l.dropLast else l ++ [part]

/-- The location that components lead to from a directory. -/
def walk (t : FileTree) : Location → List String → Except Refusal Location
  | l, [] => .ok l
  | l, part :: rest =>
    match t.at? l with
    | none => .error .noEntry
    | some (.file _) => .error .notDirectory
    | some .directory =>
      if nameLimit < part.utf8ByteSize then .error .nameTooLong else walk t (step l part) rest

/-- Where the walk along a path begins. -/
def start (t : FileTree) (p : Path) : Location := if p.anchor.isEmpty then t.current else []

/-- The location of a path. -/
def locate (t : FileTree) (p : Path) : Except Refusal Location :=
  if pathLimit < p.toString.utf8ByteSize then .error .nameTooLong else t.walk (t.start p) p.parts

/-- What stands at the end of a path. -/
def find (t : FileTree) (p : Path) : Except Refusal Entry := do
  let l ← t.locate p
  match t.at? l with
  | some e => return e
  | none => throw .noEntry

/-- Fails if a path is refused for the length of it or of its names. A question about such a path
has no answer; about any other that leads nowhere the answer is no. -/
def requireShort (t : FileTree) (p : Path) : Except FileError Unit :=
  if p.hasNul then .ok ()
  else match t.locate p with
    | .error .nameTooLong => .error (.refused .nameTooLong p)
    | _ => .ok ()

/-- Whether the path leads to anything. -/
def pathExists (t : FileTree) (p : Path) : Bool := !p.hasNul && (t.find p).isOk

/-- Whether the path leads to a directory. -/
def isDirectory (t : FileTree) (p : Path) : Bool :=
  !p.hasNul && match t.find p with
    | .ok .directory => true
    | _ => false

/-- Whether the path leads to a file. -/
def isFile (t : FileTree) (p : Path) : Bool :=
  !p.hasNul && match t.find p with
    | .ok (.file _) => true
    | _ => false

/-- Whether the path leads to a file, if that can be asked of it. -/
def checkFile (t : FileTree) (p : Path) : Except FileError Bool := do
  t.requireShort p
  return t.isFile p

/-- The bytes of the file at a path. -/
def read (t : FileTree) (p : Path) : Except FileError (List UInt8) :=
  if p.hasNul then .error .nulInPath
  else match t.find p with
    | .ok (.file bytes) => .ok bytes
    | .ok .directory => .error (.refused .isDirectory p)
    | .error why => .error (.refused why p)

/-- Whether a directory holds nothing. -/
def isEmptyDirectory (t : FileTree) (p : Path) : Except FileError Bool :=
  if p.hasNul then .error .nulInPath
  else match t.locate p with
    | .error why => .error (.refused why p)
    | .ok l =>
      match t.at? l with
      | none => .error (.refused .noEntry p)
      | some (.file _) => .error (.refused .notDirectory p)
      | some .directory =>
        .ok !((t.current :: t.entries.keys).any fun k => l.isPrefixOf k && l ≠ k)

/-- Writes a file, over the one that is there. -/
def write (t : FileTree) (p : Path) (bytes : List UInt8) : Except FileError FileTree :=
  if p.hasNul then .error .nulInPath
  else match t.locate p with
    | .error why => .error (.refused why p)
    | .ok l =>
      match t.at? l with
      | some .directory => .error (.refused .isDirectory p)
      | _ => .ok { t with entries := t.entries.put l (.file bytes) }

/-- Makes one directory. -/
def makeDirectory (t : FileTree) (p : Path) : Except FileError FileTree :=
  if p.hasNul then .error .nulInPath
  else match t.locate p with
    | .error why => .error (.refused why p)
    | .ok l =>
      match t.at? l with
      | some _ => .error (.refused .alreadyExists p)
      | none => .ok { t with entries := t.entries.put l .directory }

/-- Makes one directory unless it is there. The tree is unchanged on failure. -/
def ensureDirectory (t : FileTree) (p : Path) : FileTree × Except FileError Unit :=
  match t.makeDirectory p with
  | .ok t' => (t', .ok ())
  | .error e =>
    if e = .refused .noEntry p then (t, .error e)
    else if t.isDirectory p then (t, .ok ()) else (t, .error e)

/-- Makes the directory of the first `n` components and, where one is missing, those above it.
Directories made before a failure stay. -/
def ensureDirectories (t : FileTree) (p : Path) : Nat → FileTree × Except FileError Unit
  | 0 => t.ensureDirectory ⟨p.anchor, []⟩
  | n + 1 =>
    let here : Path := ⟨p.anchor, p.parts.take (n + 1)⟩
    match t.makeDirectory here with
    | .error (.refused .noEntry _) =>
      match t.ensureDirectories p n with
      | (t', .ok ()) => t'.ensureDirectory here
      | failed => failed
    | _ => t.ensureDirectory here

/-- Makes a directory and all that are missing above it, unless it is there. -/
def makePath (t : FileTree) (p : Path) : FileTree × Except FileError Unit :=
  t.ensureDirectories p p.parts.length

/-- Removes what stands at a path with all below it. -/
def remove (t : FileTree) (p : Path) : FileTree :=
  match t.locate p with
  | .error _ => t
  | .ok l => { t with entries := t.entries.filter fun k _ => !l.isPrefixOf k }

/-- All entries below the current directory with their paths from there, in ascending order of
these. -/
def listing (t : FileTree) : List (String × Entry) :=
  (t.entries.entries.filter fun e => t.current.isPrefixOf e.1).map
      (fun e => (joinStrings "/" (e.1.drop t.current.length), e.2))
    |>.mergeSort fun a b => decide (a.1 ≤ b.1)

/-- The entries of `after` that are new or differ from those of `before`. -/
def changes (before after : FileTree) : FileTree :=
  { after with entries := after.entries.filter fun l e => before.entries.get? l ≠ some e }

end FileTree

end Fingerprint
