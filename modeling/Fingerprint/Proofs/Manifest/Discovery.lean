/-
What is found in a directory. The manifests of the registered ecosystems are
asked for one after another, and those are found at whose paths files stand. A
path too long to be asked for stops the search, and then nothing is found
(`discover_directory`).
-/
import Fingerprint.Manifest.Registry
import Fingerprint.Proofs.FileTree.Directories

namespace Fingerprint

theorem Detection.isName_manifestName (e : Ecosystem) : IsName e.manifestName := by
  cases e <;> decide

namespace Registry

open FileTree

variable {t : FileTree} {root : Path}

/-- Whether the path of a manifest in a directory has no more bytes than a path may have. -/
def Fits (root : Path) (e : Ecosystem) : Prop :=
  (root / e.manifestName).toString.utf8ByteSize ≤ pathLimit

instance (root : Path) : DecidablePred (Fits root) := fun e =>
  inferInstanceAs (Decidable ((root / e.manifestName).toString.utf8ByteSize ≤ pathLimit))

theorem requireShort_manifest (hdir : t.isDirectory root = true) (e : Ecosystem) :
    t.requireShort (root / e.manifestName) =
      if Fits root e then .ok () else .error (.refused .nameTooLong (root / e.manifestName)) := by
  have hname : e.manifestName.utf8ByteSize ≤ nameLimit := by cases e <;> decide
  exact requireShort_join_eq hdir (Detection.isName_manifestName e) hname

theorem forM_requireShort (hdir : t.isDirectory root = true) (es : List Ecosystem) :
    ((es.map fun e => (e, root / e.manifestName)).forM fun m => t.requireShort m.2) =
      match es.find? (fun e => ¬ Fits root e) with
      | none => .ok ()
      | some e => .error (.refused .nameTooLong (root / e.manifestName)) := by
  induction es with
  | nil => rfl
  | cons e es ih =>
    have hstep : (((e :: es).map fun e => (e, root / e.manifestName)).forM fun m =>
        t.requireShort m.2) = (t.requireShort (root / e.manifestName)).bind fun _ =>
          (es.map fun e => (e, root / e.manifestName)).forM fun m => t.requireShort m.2 := rfl
    rw [hstep, requireShort_manifest hdir, ih]
    by_cases hfits : Fits root e
    · simp [hfits, Except.bind]
    · simp [hfits, Except.bind]

theorem present_eq (r : Registry) (t : FileTree) (root : Path) : r.present t root =
    (r.ordered.filter fun e => t.isFile (root / e.manifestName)).map fun e =>
      (e, root / e.manifestName) := by
  rw [present, places, List.filter_map]
  rfl

/-- **What is found in a directory, or why nothing is.** -/
theorem discover_directory (hdir : t.isDirectory root = true) (r : Registry) :
    r.discover t root =
      match r.ordered.find? (fun e => ¬ Fits root e) with
      | none => .ok (r.present t root)
      | some e => .error (.refused .nameTooLong (root / e.manifestName)) := by
  rw [discover, places, forM_requireShort hdir]
  cases r.ordered.find? (fun e => ¬ Fits root e) <;> rfl

end Registry

end Fingerprint
