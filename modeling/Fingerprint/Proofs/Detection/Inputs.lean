/-
What a fingerprint is taken from. Detection looks at the directory and at a
fixed list of paths below it (`inputs`). If these lead to the same in two
trees, then the whole run is the same in both, the events that it reports
included (`resolve_congr`).
-/
import Fingerprint.Proofs.Detection.Outcome
import Fingerprint.Proofs.FileTree.Alike

namespace Fingerprint

open FileTree

namespace Manifest

theorem read_congr {beside beside' : String → Except FileError Bool}
    (h : beside' typeConfiguration = beside typeConfiguration) (e : Ecosystem) (text : String) :
    read e beside' text = read e beside text := by
  have hhints : packageHints beside' = packageHints beside := by
    funext data
    rw [packageHints, packageHints, h]
  cases e with
  | node => rw [read, read, hhints]
  | rust | python | ruby | go | php | swift => rfl

end Manifest

namespace Detection

variable {s : Snapshot} {t' : FileTree} {root p : Path}

theorem readLossy_congr (h : LeadsAlike s.tree t' p) :
    Snapshot.readLossy { s with tree := t' } p = s.readLossy p := by
  rw [Snapshot.readLossy, Snapshot.readLossy, Snapshot.readBytes, Snapshot.readBytes, h.read]

theorem checkDirectory_congr (h : LeadsAlike s.tree t' root) :
    checkDirectory { s with tree := t' } root = checkDirectory s root := by
  rw [checkDirectory, checkDirectory, h.requireShort, h.pathExists, h.isDirectory]

theorem forM_requireShort_congr {t : FileTree} {ms : List (Ecosystem × Path)}
    (h : ∀ m ∈ ms, t'.requireShort m.2 = t.requireShort m.2) :
    (ms.forM fun m => t'.requireShort m.2) = ms.forM fun m => t.requireShort m.2 := by
  induction ms with
  | nil => rfl
  | cons m ms ih =>
    rw [List.forall_mem_cons] at h
    simp only [List.forM_eq_forM, List.forM_cons] at ih ⊢
    rw [h.1, ih h.2]

theorem discover_congr {t : FileTree}
    (h : ∀ e : Ecosystem, LeadsAlike t t' (root / e.manifestName)) :
    Registry.full.discover t' root = Registry.full.discover t root := by
  have halike : ∀ m ∈ Registry.full.places root, LeadsAlike t t' m.2 := by
    intro m hm
    obtain ⟨e, rfl⟩ := exists_of_mem_places hm
    exact h e
  have hpresent : Registry.full.present t' root = Registry.full.present t root :=
    List.filter_congr fun m hm => (halike m hm).isFile
  rw [discover_eq, discover_eq, forM_requireShort_congr fun m hm => (halike m hm).requireShort,
    hpresent]

theorem readManifest_congr (e : Ecosystem) (h : LeadsAlike s.tree t' (root / e.manifestName))
    (htypes : LeadsAlike s.tree t' (root / Manifest.typeConfiguration)) :
    readManifest { s with tree := t' } e (root / e.manifestName) =
      readManifest s e (root / e.manifestName) := by
  rw [readManifest, readManifest, readLossy_congr h]
  cases s.readLossy (root / e.manifestName) with
  | error error => rfl
  | ok text =>
    simp only
    rw [Manifest.read_congr]
    rw [Path.parent_join_name root (isName_manifestName e)]
    exact htypes.checkFile

theorem saying?_congr {e : Ecosystem} (h : LeadsAlike s.tree t' (root / e.manifestName))
    (htypes : LeadsAlike s.tree t' (root / Manifest.typeConfiguration)) :
    saying? { s with tree := t' } root e = saying? s root e := by
  rw [saying?_eq, saying?_eq, readManifest_congr e h htypes, h.isFile]

theorem readManifests_congr {ms : List (Ecosystem × Path)}
    (h : ∀ m ∈ ms, readManifest { s with tree := t' } m.1 m.2 = readManifest s m.1 m.2) :
    readManifests { s with tree := t' } ms = readManifests s ms := by
  induction ms with
  | nil => rfl
  | cons m ms ih =>
    rw [List.forall_mem_cons] at h
    rw [readManifests, readManifests, h.1, ih h.2]

theorem readIfFile_congr (h : LeadsAlike s.tree t' p) :
    readIfFile { s with tree := t' } p = readIfFile s p := by
  rw [readIfFile, readIfFile, readLossy_congr h, h.checkFile]

theorem tryConfigFiles_congr {names : List String}
    (h : ∀ name ∈ names, LeadsAlike s.tree t' (root / name)) (r : Resolution) :
    tryConfigFiles { s with tree := t' } root names r = tryConfigFiles s root names r := by
  induction names generalizing r with
  | nil => rfl
  | cons name names ih =>
    rw [List.forall_mem_cons] at h
    rw [tryConfigFiles, tryConfigFiles, readIfFile_congr h.1]
    simp only [ih h.2]

theorem firstFile?_congr {t : FileTree} {cs : List String}
    (h : ∀ c ∈ cs, LeadsAlike t t' (root / c)) : firstFile? t' root cs = firstFile? t root cs := by
  induction cs with
  | nil => rfl
  | cons c cs ih =>
    rw [List.forall_mem_cons] at h
    rw [firstFile?, firstFile?, h.1.checkFile, ih h.2]

theorem fallBack_congr (h : ∀ q ∈ fallbackFiles, LeadsAlike s.tree t' (root / q))
    (r : Resolution) : fallBack { s with tree := t' } root r = fallBack s root r := by
  obtain ⟨hprocess, hconfig, hconventions⟩ := forall_mem_fallbackFiles.1 h
  simp only [fallBack, tryProcessFile, readIfFile_congr hprocess, tryConfigFiles_congr hconfig,
    tryConventions, firstFile?_congr hconventions]

theorem readable?_congr (h : LeadsAlike s.tree t' p) :
    readable? { s with tree := t' } p = readable? s p := by
  rw [readable?, readable?, readLossy_congr h, h.isFile]

theorem fallbackOffers_congr (h : ∀ q ∈ fallbackFiles, LeadsAlike s.tree t' (root / q)) :
    fallbackOffers { s with tree := t' } root = fallbackOffers s root := by
  obtain ⟨hprocess, hconfig, hconventions⟩ := forall_mem_fallbackFiles.1 h
  have hread : ∀ name ∈ configFiles,
      readable? { s with tree := t' } (root / name) = readable? s (root / name) :=
    fun name hn => readable?_congr (hconfig name hn)
  have hthere : ∀ c ∈ conventionalEntries, t'.isFile (root / c) = s.tree.isFile (root / c) :=
    fun c hc => (hconventions c hc).isFile
  simp only [fallbackOffers, processOffers, configOffers, conventionOffers, readable?_congr hprocess,
    List.filterMap_congr hread, List.filter_congr hthere]

/-- What is known hangs on the tree through the files that the fallbacks look at. -/
theorem learn_congr (h : ∀ q ∈ fallbackFiles, LeadsAlike s.tree t' (root / q))
    (language : Option Language) (hs : List Hints) :
    learn { s with tree := t' } root language hs = learn s root language hs := by
  rw [learn, learn, fallbackOffers_congr h]

theorem conclude_congr {t : FileTree} (h : LeadsAlike t t' (root / environmentFile))
    (r : Resolution) : conclude t' root r = conclude t root r := by
  rw [conclude, conclude, needsSecrets, needsSecrets, h.isFile]

theorem finalize_congr {t : FileTree} (h : LeadsAlike t t' (root / environmentFile))
    (r : Resolution) : finalize t' root r = finalize t root r := by
  rw [finalize, finalize, h.requireShort, conclude_congr h]

/-- **A fingerprint hangs on its inputs alone**, and so does all that is reported on the way. -/
theorem resolve_congr (hroot : LeadsAlike s.tree t' root)
    (h : ∀ q ∈ inputs, LeadsAlike s.tree t' (root / q)) (forced : String) :
    resolve { s with tree := t' } root forced = resolve s root forced := by
  have hmanifests : ∀ e : Ecosystem, LeadsAlike s.tree t' (root / e.manifestName) :=
    fun e => h _ (mem_inputs_manifestName e)
  have htypes : LeadsAlike s.tree t' (root / Manifest.typeConfiguration) := h _ (by decide)
  have hsecrets : LeadsAlike s.tree t' (root / environmentFile) := h _ (by decide)
  have hread : ∀ found, Registry.full.discover s.tree root = .ok found →
      readManifests { s with tree := t' } found = readManifests s found := by
    intro found hfound
    refine readManifests_congr fun m hm => ?_
    obtain ⟨-, rfl⟩ := discover_eq_ok.1 hfound
    obtain ⟨e, rfl⟩ := exists_of_mem_present hm
    exact readManifest_congr e (hmanifests e) htypes
  simp only [resolve, checkDirectory_congr hroot, discover_congr hmanifests]
  cases hfound : Registry.full.discover s.tree root with
  | error error =>
    have hstop : ∀ f : List (Ecosystem × Path) → Traced Failure Detection,
        (Traced.ofExcept ((Except.error error).mapError Failure.ofFile) >>= f) =
          .ofExcept (.error (.ofFile error)) := fun _ => rfl
    simp only [hstop]
  | ok found =>
    have hgo : ∀ f : List (Ecosystem × Path) → Traced Failure Detection,
        (Traced.ofExcept ((Except.ok found : Except FileError _).mapError Failure.ofFile) >>= f) =
          f found := fun _ => rfl
    have hfallback : ∀ q ∈ fallbackFiles, LeadsAlike s.tree t' (root / q) :=
      fun q hq => h q (mem_inputs_of_mem_fallbackFiles q hq)
    simp only [hgo, hread found hfound, fallBack_congr hfallback, finalize_congr hsecrets]

end Detection

end Fingerprint
