/-
Reading a manifest of any ecosystem. A document that is not JSON, or not an
object, is reported and says nothing. A reading fails only at an integer of
too many digits, or when it has to look beside the manifest and cannot.
-/
import Fingerprint.FileTree.Basic
import Fingerprint.Manifest.CrateManifest
import Fingerprint.Manifest.Declarations
import Fingerprint.Manifest.ModuleList
import Fingerprint.Manifest.Packages
import Fingerprint.Manifest.RequirementList
import Fingerprint.Trace

namespace Fingerprint.Manifest

open Json

/-- Why a manifest cannot be read. -/
inductive Failure where
  | tooManyDigits (count : Nat)
  | file (error : FileError)
  deriving DecidableEq, Repr

/-- The wording of a failure. -/
def Failure.message : Failure → String
  | .tooManyDigits count => Decimal.tooManyDigitsMessage count
  | .file error => error.message

/-- The file whose presence beside a package manifest marks the project as typed. -/
def typeConfiguration : String := "tsconfig.json"

/-- The hints of a manifest that is a JSON object. -/
def readObject (e : Ecosystem) (hints : Value → Except FileError Hints) (text : String) :
    Traced Failure Hints :=
  let silent (why : Malformed) : Traced Failure Hints := do
    Traced.report (.malformedManifest e.manifestName why)
    return .silent e
  match Json.read text with
  | .error (.tooManyDigits count) => .fail (.tooManyDigits count)
  | .error error => silent (.syntaxError error)
  | .ok (.object members) => Traced.ofExcept ((hints (.object members)).mapError .file)
  | .ok _ => silent .notAnObject

/-- The hints of a package manifest. That the project is typed is said by the manifest or, if it
says nothing, by a type configuration beside it. -/
def packageHints (beside : String → Except FileError Bool) (data : Value) : Except FileError Hints :=
  if Packages.declaresTypes data then .ok (Packages.packageHints true data)
  else (beside typeConfiguration).map fun typed => Packages.packageHints typed data

/-- The hints of a manifest; `beside` says which names are files in its directory. -/
def read (e : Ecosystem) (beside : String → Except FileError Bool) (text : String) :
    Traced Failure Hints :=
  match e with
  | .node => readObject e (packageHints beside) text
  | .php => readObject e (fun data => .ok (Packages.composerHints data)) text
  | .rust => return .ofHabit e (CrateManifest.dependencies text)
  | .python => return .ofHabit e (RequirementList.dependencies text)
  | .go => return .ofHabit e (ModuleList.dependencies text)
  | .ruby => return .ofHabit e (Declarations.dependencies "gem" text)
  | .swift => return .ofHabit e (Declarations.dependencies "pod" text)

end Fingerprint.Manifest
