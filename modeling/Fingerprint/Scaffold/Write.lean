/-
Writing files under a directory, one after another. What has been written
before a failure stays, and nothing after it is touched. A file is opened, and
so emptied, before its content is encoded.
-/
import Fingerprint.FileTree.Basic
import Fingerprint.Text.WideText
import Fingerprint.Trace

namespace Fingerprint.Scaffold

open Text

/-- Why a file could not be written: an operation on it failed, or its content has no bytes. -/
inductive WriteFault where
  | file (error : FileError)
  | encoding (fault : EncodingFault)
  deriving DecidableEq, Repr

/-- The wording of a fault. -/
def WriteFault.message : WriteFault → String
  | .file error => error.message
  | .encoding fault => fault.message

/-- A file that could not be written. -/
structure WriteError where
  target : Path
  error : WriteFault
  deriving DecidableEq, Repr

/-- The wording of a failure. -/
def WriteError.message (e : WriteError) : String :=
  s!"failed to write {e.target.toString}: {e.error.message}"

variable {α : Type} [Content α]

/-- What a file holds once a content has been written to it, as far as that is possible. -/
def writtenBytes (content : α) : List UInt8 := (Content.encode content).toOption.getD []

/-- Writes one file with the directories above it. -/
def writeFile (t : FileTree) (target : Path) (content : α) : FileTree × Except WriteError Unit :=
  match t.makePath target.parent with
  | (t, .error e) => (t, .error ⟨target, .file e⟩)
  | (t, .ok ()) =>
    match t.write target (writtenBytes content), Content.encode content with
    | .error e, _ => (t, .error ⟨target, .file e⟩)
    | .ok t, .error fault => (t, .error ⟨target, .encoding fault⟩)
    | .ok t, .ok _ => (t, .ok ())

/-- Writes files under a directory, giving their paths. -/
def writeFiles (t : FileTree) (dir : Path) :
    List (String × α) → FileTree × Traced WriteError (List Path)
  | [] => (t, pure [])
  | (name, content) :: rest =>
    match writeFile t (dir / name) content with
    | (t, .error e) => (t, .fail e)
    | (t, .ok ()) =>
      let r := writeFiles t dir rest
      (r.1, do
        Traced.report (.fileWritten name)
        let paths ← r.2
        return (dir / name) :: paths)

end Fingerprint.Scaffold
