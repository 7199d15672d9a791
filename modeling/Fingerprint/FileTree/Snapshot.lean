/-
A file tree as a reader sees it: some file names cannot be read, and access to
every directory may be denied. Text is read with its line breaks unified.
-/
import Fingerprint.FileTree.Basic
import Fingerprint.Text.Lines
import Fingerprint.Text.Utf8

namespace Fingerprint

open Text

/-- A tree with the names of the files that cannot be read, and whether access is denied. -/
structure Snapshot where
  tree : FileTree
  unreadable : List String := []
  denied : Bool := false

namespace Snapshot

/-- The bytes of the file at a path. -/
def readBytes (s : Snapshot) (p : Path) : Except FileError (List UInt8) :=
  if s.unreadable.contains p.name then .error (.refused .accessDenied p) else s.tree.read p

/-- The text of the file at a path, with U+FFFD in the place of what is no text. -/
def readLossy (s : Snapshot) (p : Path) : Except FileError String :=
  (s.readBytes p).map fun bytes => String.ofList (unifyBreaks (Utf8.decodeLossy bytes))

end Snapshot

end Fingerprint
