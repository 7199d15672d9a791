/-
The room that detection needs. With one of its inputs behind it, the path of a
directory may be too long to be asked for. No input is longer than the longest
name of a manifest, so wherever manifests can be looked for, every input can be
asked for (`requireShort_input`).
-/
import Fingerprint.Detection.Resolve
import Fingerprint.Proofs.Detection.Fallbacks
import Fingerprint.Proofs.Manifest.Discovery

namespace Fingerprint.Detection

open FileTree

variable {t : FileTree} {s : Snapshot} {root : Path}

/-- The paths below a directory that detection looks at. -/
def inputs : List String :=
  Ecosystem.all.map Ecosystem.manifestName
    ++ [Manifest.typeConfiguration, processFile, environmentFile]
    ++ configFiles ++ conventionalEntries

theorem mem_inputs_of_mem_fallbackFiles : ∀ q ∈ fallbackFiles, q ∈ inputs := by decide

theorem mem_inputs_manifestName (e : Ecosystem) : e.manifestName ∈ inputs := by
  cases e <;> decide

/-- Whether a path leaves room for the name of each manifest. -/
def HasRoom (root : Path) : Prop :=
  ∀ e : Ecosystem, (root / e.manifestName).toString.utf8ByteSize ≤ pathLimit

theorem ordered_full : Registry.full.ordered = Ecosystem.all := by decide

theorem discover_isOk_iff (hdir : t.isDirectory root = true) :
    (Registry.full.discover t root).isOk = true ↔ HasRoom root := by
  have hroom : HasRoom root ↔
      Registry.full.ordered.find? (fun e => ¬ Registry.Fits root e) = none := by
    simp [ordered_full, Ecosystem.mem_all, HasRoom, Registry.Fits]
  rw [hroom, Registry.discover_directory hdir]
  cases Registry.full.ordered.find? (fun e => ¬ Registry.Fits root e) <;>
    simp [Except.isOk, Except.toBool]

theorem partsSize_of_mem_inputs : ∀ q ∈ inputs, Path.IsBelow q ∧
    (∀ part ∈ (Path.ofString q).parts, part.utf8ByteSize ≤ nameLimit) ∧
    Path.partsSize q ≤ Path.partsSize Ecosystem.python.manifestName := by
  decide +kernel

/-- **Where there is room for the manifests, every input can be asked for.** -/
theorem requireShort_input (hdir : t.isDirectory root = true) (hroom : HasRoom root) :
    ∀ q ∈ inputs, t.requireShort (root / q) = .ok () := by
  intro q hq
  obtain ⟨hbelow, hparts, hle⟩ := partsSize_of_mem_inputs q hq
  obtain ⟨hlongest, -, -⟩ := partsSize_of_mem_inputs _ (mem_inputs_manifestName .python)
  have hfits := hroom .python
  rw [Path.size_join root hlongest] at hfits
  refine requireShort_below hdir hbelow hparts ?_
  rw [Path.size_join root hbelow]
  omega

theorem isDirectory_of_checkDirectory (h : checkDirectory s root = .ok ()) :
    s.tree.isDirectory root = true := by
  by_contra hdir
  rw [Bool.not_eq_true] at hdir
  unfold checkDirectory at h
  cases hshort : s.tree.requireShort root with
  | error error =>
    rw [hshort] at h
    cases h
  | ok u =>
    rw [hshort, hdir] at h
    cases hthere : s.tree.pathExists root <;>
      (rw [hthere] at h; cases h)

/-- Once manifests have been looked for in a directory, everything else can be asked for too. -/
theorem requireShort_of_discover (hcheck : checkDirectory s root = .ok ())
    (hfound : (Registry.full.discover s.tree root).isOk = true) :
    ∀ q ∈ inputs, s.tree.requireShort (root / q) = .ok () := by
  have hdir := isDirectory_of_checkDirectory hcheck
  exact requireShort_input hdir ((discover_isOk_iff hdir).1 hfound)

end Fingerprint.Detection
