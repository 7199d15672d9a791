/-
What a fingerprint can tell apart. Of a directory detection sees whether it can
be looked into, the bytes of a few files and the presence of a few others
(`SeenAlike`). Where these are alike in two snapshots the outcome is the same
in both, whatever else their trees hold (`resolve_seenAlike`): the trees need
share no entry, and a path may lead to different places in them.
-/
import Fingerprint.Proofs.Detection.Inputs
import Fingerprint.Proofs.Detection.Totality

namespace Fingerprint

open FileTree

namespace FileTree

variable {t t' : FileTree} {p : Path} {name : String}

/-- Below a directory the path alone decides whether a name can be asked for. -/
theorem requireShort_join_congr (hdir : t.isDirectory p = true) (hdir' : t'.isDirectory p = true)
    (hn : IsName name) (hname : name.utf8ByteSize ≤ nameLimit) :
    t'.requireShort (p / name) = t.requireShort (p / name) := by
  rw [requireShort_join_eq hdir' hn hname, requireShort_join_eq hdir hn hname]

end FileTree

namespace Detection

/-- The files below a directory that detection reads. -/
def readFiles : List String :=
  ["package.json", "Cargo.toml", "requirements.txt", "Gemfile", "go.mod", "composer.json",
    "Podfile", "Procfile", ".config.ts", ".config.toml"]

/-- The files below a directory of which detection asks only whether they are there. -/
def askedFiles : List String :=
  ["tsconfig.json", ".env", "src/main.tsx", "src/main.ts", "src/index.tsx", "src/index.ts",
    "src/index.js", "src/main.js", "main.py", "app.py"]

/-- Whether detection sees the same of a directory in two snapshots: it is there and accessible
alike, the files that are read are there alike, readable alike and hold the same bytes, and the
others are there alike. -/
structure SeenAlike (root : Path) (s s' : Snapshot) : Prop where
  requireShort : s'.tree.requireShort root = s.tree.requireShort root
  pathExists : s'.tree.pathExists root = s.tree.pathExists root
  isDirectory : s'.tree.isDirectory root = s.tree.isDirectory root
  denied : s'.denied = s.denied
  isFile : ∀ q ∈ readFiles ++ askedFiles, s'.tree.isFile (root / q) = s.tree.isFile (root / q)
  bytes : ∀ q ∈ readFiles, s.tree.isFile (root / q) = true →
    (s'.readBytes (root / q)).toOption = (s.readBytes (root / q)).toOption

theorem mem_readFiles_manifestName (e : Ecosystem) : e.manifestName ∈ readFiles := by
  cases e <;> decide

variable {s s' : Snapshot} {root p : Path}

theorem toOption_readLossy (s : Snapshot) (p : Path) : (s.readLossy p).toOption =
    (s.readBytes p).toOption.map fun bytes =>
      String.ofList (Text.unifyBreaks (Text.Utf8.decodeLossy bytes)) := by
  rw [Snapshot.readLossy]
  cases s.readBytes p <;> rfl

theorem outcome_readManifest (s : Snapshot) (e : Ecosystem) (p : Path) :
    (readManifest s e p).outcome = match (s.readLossy p).toOption with
      | none => .ok (.silent e)
      | some text => (Manifest.read e (fun name => s.tree.checkFile (p.parent / name))
          text).outcome.mapError .manifest := by
  rw [readManifest]
  cases s.readLossy p <;> simp [Except.toOption, Except.bind]

theorem outcome_readManifests_congr {ms : List (Ecosystem × Path)}
    (h : ∀ m ∈ ms, (readManifest s' m.1 m.2).outcome = (readManifest s m.1 m.2).outcome) :
    (readManifests s' ms).outcome = (readManifests s ms).outcome := by
  induction ms with
  | nil => rfl
  | cons m ms ih =>
    rw [List.forall_mem_cons] at h
    simp only [readManifests, Traced.outcome_bind, Traced.outcome_pure, h.1, ih h.2]

namespace SeenAlike

theorem checkDirectory (h : SeenAlike root s s') :
    Detection.checkDirectory s' root = Detection.checkDirectory s root := by
  rw [Detection.checkDirectory, Detection.checkDirectory, h.requireShort, h.pathExists,
    h.isDirectory, h.denied]

theorem isFile_manifest (h : SeenAlike root s s') (e : Ecosystem) :
    s'.tree.isFile (root / e.manifestName) = s.tree.isFile (root / e.manifestName) :=
  h.isFile _ (List.mem_append_left _ (mem_readFiles_manifestName e))

theorem readLossy (h : SeenAlike root s s') {q : String} (hq : q ∈ readFiles)
    (hf : s.tree.isFile (root / q) = true) :
    (s'.readLossy (root / q)).toOption = (s.readLossy (root / q)).toOption := by
  rw [toOption_readLossy, toOption_readLossy, h.bytes q hq hf]

theorem readable? (h : SeenAlike root s s') {q : String} (hq : q ∈ readFiles) :
    Detection.readable? s' (root / q) = Detection.readable? s (root / q) := by
  rw [Detection.readable?, Detection.readable?, h.isFile q (List.mem_append_left _ hq)]
  cases hf : s.tree.isFile (root / q) with
  | false => rfl
  | true => exact h.readLossy hq hf

/-- Once the directory can be looked into, its path decides what can be asked for in it. -/
theorem discover (h : SeenAlike root s s') (hdir : s.tree.isDirectory root = true) :
    Registry.full.discover s'.tree root = Registry.full.discover s.tree root := by
  have hdir' : s'.tree.isDirectory root = true := h.isDirectory.trans hdir
  have hpresent : Registry.full.present s'.tree root = Registry.full.present s.tree root := by
    refine List.filter_congr fun m hm => ?_
    obtain ⟨e, rfl⟩ := exists_of_mem_places hm
    exact h.isFile_manifest e
  have hasked : ∀ m ∈ Registry.full.places root,
      s'.tree.requireShort m.2 = s.tree.requireShort m.2 := by
    intro m hm
    obtain ⟨e, rfl⟩ := exists_of_mem_places hm
    exact requireShort_join_congr hdir hdir' (isName_manifestName e) (by cases e <;> decide)
  rw [discover_eq, discover_eq, forM_requireShort_congr hasked, hpresent]

theorem checkFile_typeConfiguration (h : SeenAlike root s s')
    (hdir : s.tree.isDirectory root = true) :
    s'.tree.checkFile (root / Manifest.typeConfiguration) =
      s.tree.checkFile (root / Manifest.typeConfiguration) := by
  rw [checkFile, checkFile, requireShort_join_congr hdir (h.isDirectory.trans hdir) (by decide)
    (by decide), h.isFile _ (by decide)]

theorem readManifest (h : SeenAlike root s s') (hdir : s.tree.isDirectory root = true)
    {e : Ecosystem} (hf : s.tree.isFile (root / e.manifestName) = true) :
    (Detection.readManifest s' e (root / e.manifestName)).outcome =
      (Detection.readManifest s e (root / e.manifestName)).outcome := by
  rw [outcome_readManifest, outcome_readManifest,
    h.readLossy (mem_readFiles_manifestName e) hf]
  cases (s.readLossy (root / e.manifestName)).toOption with
  | none => rfl
  | some text =>
    simp only
    rw [Manifest.read_congr]
    rw [Path.parent_join_name root (isName_manifestName e)]
    exact h.checkFile_typeConfiguration hdir

/-- **What the manifests say, or why that cannot be learnt, is the same.** -/
theorem gather (h : SeenAlike root s s') : Detection.gather s' root = Detection.gather s root := by
  rw [Detection.gather, Detection.gather, h.checkDirectory]
  cases hcheck : Detection.checkDirectory s root with
  | error failure => simp only [Except.bind]
  | ok u =>
    have hdir := isDirectory_of_checkDirectory hcheck
    rw [h.discover hdir]
    cases hfound : Registry.full.discover s.tree root with
    | error error => simp only [Except.mapError, Except.bind]
    | ok found =>
      refine outcome_readManifests_congr fun m hm => ?_
      obtain ⟨-, rfl⟩ := discover_eq_ok.1 hfound
      have hf : s.tree.isFile m.2 = true := (List.mem_filter.1 hm).2
      obtain ⟨e, rfl⟩ := exists_of_mem_present hm
      exact h.readManifest hdir hf

/-- **What the fallbacks offer is the same.** -/
theorem fallbackOffers (h : SeenAlike root s s') :
    Detection.fallbackOffers s' root = Detection.fallbackOffers s root := by
  have hprocess : processOffers s' root = processOffers s root := by
    rw [processOffers, processOffers, h.readable? (by decide)]
  have hconfig : configOffers s' root configFiles = configOffers s root configFiles := by
    have hfiles : ∀ name ∈ configFiles, name ∈ readFiles := by decide
    rw [configOffers, configOffers,
      List.filterMap_congr fun name hname => h.readable? (hfiles name hname)]
  have hconventions : conventionOffers s'.tree root = conventionOffers s.tree root := by
    have hplaces : ∀ c ∈ conventionalEntries, c ∈ readFiles ++ askedFiles := by decide
    rw [conventionOffers, conventionOffers,
      List.filter_congr fun c hc => h.isFile c (hplaces c hc)]
  rw [Detection.fallbackOffers, Detection.fallbackOffers, hprocess, hconfig, hconventions]

theorem conclude (h : SeenAlike root s s') (r : Resolution) :
    Detection.conclude s'.tree root r = Detection.conclude s.tree root r := by
  rw [Detection.conclude, Detection.conclude, needsSecrets, needsSecrets, h.isFile _ (by decide)]

end SeenAlike

/-- **Only what is recognised influences a fingerprint.** Two snapshots in which a directory is
accessible alike, the recognised files are there alike and those that are read hold the same, give
the same fingerprint or fail in the same way, whatever language is forced. -/
theorem resolve_seenAlike (h : SeenAlike root s s') (forced : String) :
    (resolve s' root forced).outcome = (resolve s root forced).outcome := by
  rw [outcome_resolve, outcome_resolve, h.gather]
  have hsame : ∀ hs, conclude s'.tree root (learn s' root (forcedLanguage forced) hs) =
      conclude s.tree root (learn s root (forcedLanguage forced) hs) := by
    intro hs
    rw [h.conclude, learn, learn, h.fallbackOffers]
  simp only [hsame]

/-- A directory below the current one, with a package manifest, a process file that cannot be read,
and the file that asks for secrets. -/
def plainSnapshot : Snapshot where
  tree := {
    entries := Table.ofList [
      (["app"], .directory),
      (["app", "package.json"], .file "\x7b\"main\": \"a.js\"\x7d".toUTF8.toList),
      (["app", "Procfile"], .file "web: run b.py".toUTF8.toList),
      (["app", ".env"], .file [])] }
  unreadable := ["Procfile"]

/-- The same in another order, with other contents where these are not read, among names that are
no manifest's: in another case, with a suffix, in a directory below, or of a directory. -/
def crowdedSnapshot : Snapshot where
  tree := {
    entries := Table.ofList [
      (["work", "go.mod"], .file "require x v1".toUTF8.toList),
      (["work", "app"], .directory),
      (["work", "app", ".env"], .file "KEY=1".toUTF8.toList),
      (["work", "app", "Gemfile"], .directory),
      (["work", "app", "Gemfile", "Podfile"], .file "pod 'A'".toUTF8.toList),
      (["work", "app", "cargo.toml"], .file "[dependencies]\na = \"1\"".toUTF8.toList),
      (["work", "app", "Procfile"], .file [0xFF]),
      (["work", "app", "package.json.orig"], .file "\x7b\x7d".toUTF8.toList),
      (["work", "app", "package.json"], .file "\x7b\"main\": \"a.js\"\x7d".toUTF8.toList)]
    current := ["work"] }
  unreadable := ["Procfile", "README.md"]

/-- Detection does not see what sets the two directories apart. -/
theorem resolve_seenAlike_crowded :
    SeenAlike (.ofString "app") plainSnapshot crowdedSnapshot ∧
      (resolve crowdedSnapshot (.ofString "app") "").outcome = .ok {
        language := .js
        entrypoint := "a.js"
        guessed := false
        dependencies := Table.ofList [(.node, ∅)]
        secretsRequired := true } := by
  have halike : SeenAlike (.ofString "app") plainSnapshot crowdedSnapshot := {
    requireShort := by decide +kernel
    pathExists := by decide +kernel
    isDirectory := by decide +kernel
    denied := rfl
    isFile := by decide +kernel
    bytes := by decide +kernel }
  refine ⟨halike, (resolve_seenAlike halike "").trans ?_⟩
  decide +kernel

end Detection

end Fingerprint
