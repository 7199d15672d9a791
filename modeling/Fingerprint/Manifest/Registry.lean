/-
The registry of the ecosystems whose manifests are recognised. However they
were registered, they are listed once each and in order of precedence.
-/
import Fingerprint.Ecosystem
import Fingerprint.FileTree.Basic

namespace Fingerprint

/-- The registered ecosystems, in the order in which they came. -/
structure Registry where
  registered : List Ecosystem

namespace Registry

/-- The registry of every ecosystem. -/
def full : Registry := ⟨Ecosystem.all⟩

/-- The registry without an ecosystem. -/
def empty : Registry := ⟨[]⟩

/-- Registers an ecosystem. -/
def register (r : Registry) (e : Ecosystem) : Registry :=
  if e ∈ r.registered then r else ⟨r.registered ++ [e]⟩

/-- The registered ecosystems in order of precedence. -/
def ordered (r : Registry) : List Ecosystem := Ecosystem.all.filter (· ∈ r.registered)

/-- The paths at which manifests may stand in a directory, in order of precedence. -/
def places (r : Registry) (root : Path) : List (Ecosystem × Path) :=
  r.ordered.map fun e => (e, root / e.manifestName)

/-- The manifests that stand in a directory, in order of precedence. -/
def present (r : Registry) (tree : FileTree) (root : Path) : List (Ecosystem × Path) :=
  (r.places root).filter fun m => tree.isFile m.2

/-- The manifests that stand in a directory; none can be looked for under a path too long. -/
def discover (r : Registry) (tree : FileTree) (root : Path) :
    Except FileError (List (Ecosystem × Path)) := do
  (r.places root).forM fun m => tree.requireShort m.2
  return r.present tree root

theorem mem_ordered {r : Registry} {e : Ecosystem} : e ∈ r.ordered ↔ e ∈ r.registered := by
  simp [ordered, Ecosystem.mem_all]

end Registry

end Fingerprint
