/-
The two manifests that are JSON documents. A package manifest declares its
packages in two objects, of which `dependencies` wins over `devDependencies`;
it names its own entrypoint and says whether the project is typed. A composer
manifest declares its packages in `require`. A version may be any value and is
taken as its text.
-/
import Fingerprint.Json.Display
import Fingerprint.Json.Reader
import Fingerprint.Manifest.Hints

namespace Fingerprint.Packages

open Json

/-- The members of an object with the texts of their values; nothing for any other value. -/
def versionsOf : Option Value → Versions
  | some (.object members) => Table.ofList (members.map fun m => (m.1, m.2.display))
  | _ => ∅

/-- A member that is a string and not empty. -/
def textMember? (data : Value) (name : String) : Option String :=
  match data.member? name with
  | some (.string s) => if s.isEmpty then none else some s
  | _ => none

/-- Whether a package manifest says by itself that the project is typed. -/
def declaresTypes (data : Value) : Bool := (data.member? "types").any Value.isTruthy

/-- The hints of a package manifest; `typed` says whether the project is typed. -/
def packageHints (typed : Bool) (data : Value) : Hints where
  ecosystem := .node
  dependencies :=
    (versionsOf (data.member? "devDependencies")).update (versionsOf (data.member? "dependencies"))
  language := some (if typed then .ts else .js)
  entrypoint := (["main", "module"].findSome? (textMember? data)).getD ""

/-- The hints of a composer manifest. -/
def composerHints (data : Value) : Hints :=
  .ofHabit .php (versionsOf (data.member? "require"))

end Fingerprint.Packages
