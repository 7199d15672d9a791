/-
What a fingerprint is made of, without the events on the way. Beside the
entrypoints that the fallbacks offer (`fallbackOffers`), each source is a plain
value: what the manifest of an ecosystem says (`saying?`). A fingerprint exists
iff the directory can be looked into and every manifest in it can be read, and
then it is the conclusion from these sources (`resolve_eq_ok`); otherwise it
fails as the gathering of what the manifests say does (`outcome_resolve`).
-/
import Mathlib.Data.List.Forall2
import Fingerprint.Proofs.Detection.Room
import Fingerprint.Proofs.Entries

namespace Fingerprint

namespace Detection

/-- What the manifest of an ecosystem says, if it is there; nothing if it cannot be read. -/
def saying? (s : Snapshot) (root : Path) (e : Ecosystem) : Option Hints :=
  if s.tree.isFile (root / e.manifestName) then
    match s.readLossy (root / e.manifestName) with
    | .error _ => some (.silent e)
    | .ok text =>
      (Manifest.read e (fun name => s.tree.checkFile ((root / e.manifestName).parent / name))
        text).outcome.toOption
  else none

/-- What the manifests of a directory say, in order of precedence. -/
def sayings (s : Snapshot) (root : Path) : List Hints := Ecosystem.all.filterMap (saying? s root)

variable {ε : Type}

theorem saying?_eq (s : Snapshot) (root : Path) (e : Ecosystem) :
    saying? s root e =
      if s.tree.isFile (root / e.manifestName) then
        (readManifest s e (root / e.manifestName)).outcome.toOption
      else none := by
  unfold saying? readManifest
  cases s.readLossy (root / e.manifestName) with
  | error error => rfl
  | ok text =>
    simp only [Traced.outcome_bind, Traced.outcome_report, Traced.outcome_mapError, Except.bind]
    cases (Manifest.read e _ text).outcome <;> rfl

theorem read_eq_saying? {s : Snapshot} {root : Path} {e : Ecosystem}
    (hf : s.tree.isFile (root / e.manifestName) = true) {h : Hints} :
    (readManifest s e (root / e.manifestName)).outcome = .ok h ↔ saying? s root e = some h := by
  rw [saying?_eq, if_pos hf, toOption_eq_some_iff]

/-- **Manifests are read iff each that is there says something**, and then in order. -/
theorem outcome_readManifests {s : Snapshot} {root : Path} {es : List Ecosystem}
    {hs : List Hints} :
    (readManifests s ((es.map fun e => (e, root / e.manifestName)).filter fun m =>
        s.tree.isFile m.2)).outcome = .ok hs ↔
      (∀ e ∈ es, s.tree.isFile (root / e.manifestName) = true → (saying? s root e).isSome) ∧
        es.filterMap (saying? s root) = hs := by
  induction es generalizing hs with
  | nil => simp [readManifests]
  | cons e es ih =>
    rw [List.map_cons, List.filter_cons, List.forall_mem_cons, List.filterMap_cons]
    cases hf : s.tree.isFile (root / e.manifestName) with
    | false =>
      have hnone : saying? s root e = none := by simp [saying?, hf]
      simp only [Bool.false_eq_true, if_false, ih, hnone, false_implies, true_and]
    | true =>
      simp only [if_true, readManifests, Traced.outcome_bind, Traced.outcome_pure, bind_ok_iff,
        read_eq_saying? hf, ih, true_implies]
      constructor
      · rintro ⟨h, hh, hs', ⟨hall, rfl⟩, he⟩
        cases he
        rw [hh]
        exact ⟨⟨rfl, hall⟩, rfl⟩
      · rintro ⟨⟨hsome, hall⟩, he⟩
        obtain ⟨h, hh⟩ := Option.isSome_iff_exists.1 hsome
        rw [hh] at he
        exact ⟨h, hh, _, ⟨hall, rfl⟩, by rw [← he]⟩

theorem outcome_forceLanguage (forced : String) :
    (forceLanguage forced : Traced ε (Option Language)).outcome = .ok (forcedLanguage forced) := by
  simp only [forceLanguage]
  split <;> rfl

theorem present_full (tree : FileTree) (root : Path) : Registry.full.present tree root =
    (Ecosystem.all.map fun e => (e, root / e.manifestName)).filter fun m => tree.isFile m.2 := by
  rw [Registry.present, Registry.places, ordered_full]

theorem exists_of_mem_places {root : Path} {m : Ecosystem × Path}
    (h : m ∈ Registry.full.places root) : ∃ e, m = (e, root / e.manifestName) := by
  obtain ⟨e, -, rfl⟩ := List.mem_map.1 h
  exact ⟨e, rfl⟩

theorem exists_of_mem_present {tree : FileTree} {root : Path} {m : Ecosystem × Path}
    (h : m ∈ Registry.full.present tree root) : ∃ e, m = (e, root / e.manifestName) :=
  exists_of_mem_places (List.mem_of_mem_filter h)

/-- What the manifests of a directory say, in order of precedence, or why that cannot be learnt. -/
def gather (s : Snapshot) (root : Path) : Except Failure (List Hints) :=
  (checkDirectory s root).bind fun _ =>
    ((Registry.full.discover s.tree root).mapError .ofFile).bind fun found =>
      (readManifests s found).outcome

/-- What is known once manifests that say this much and the fallbacks have been looked at. -/
def learn (s : Snapshot) (root : Path) (language : Option Language) (hs : List Hints) : Resolution :=
  takeOffers (fallbackOffers s root) ((Resolution.mk language "" false ∅).adoptAll hs)

/-- Where the file of secrets can be asked for, what is known leads to a conclusion. -/
theorem finalize_eq {t : FileTree} {root : Path} (h : t.requireShort (root / environmentFile) = .ok ())
    (r : Resolution) : finalize t root r = .ok (conclude t root r) := by
  rw [finalize, h]
  rfl

/-- **A fingerprint is the conclusion from what the manifests say**; it fails as these do. -/
theorem outcome_resolve (s : Snapshot) (root : Path) (forced : String) :
    (resolve s root forced).outcome =
      (gather s root).map fun hs => conclude s.tree root (learn s root (forcedLanguage forced) hs) := by
  simp only [resolve, gather, learn, Traced.outcome_bind, Traced.outcome_ofExcept,
    outcome_forceLanguage, Traced.outcome_mapError, Traced.outcome_report, Traced.outcome_pure]
  cases hcheck : checkDirectory s root with
  | error failure => rfl
  | ok u =>
    cases hfound : Registry.full.discover s.tree root with
    | error error => rfl
    | ok found =>
      -- Everything else can be asked for, since the manifests could.
      have hshort := requireShort_of_discover hcheck (by rw [hfound]; rfl)
      have hfallback := outcome_fallBack fun q hq => hshort q (mem_inputs_of_mem_fallbackFiles q hq)
      have hfinal := finalize_eq (hshort environmentFile (by decide))
      simp only [Except.mapError, Except.bind]
      cases (readManifests s found).outcome with
      | error failure => rfl
      | ok hs => simp only [hfallback, hfinal, Except.map]

/-- Whether the manifests of a directory can be looked for and read. -/
structure Readable (s : Snapshot) (root : Path) : Prop where
  directory : checkDirectory s root = .ok ()
  discover : (Registry.full.discover s.tree root).isOk = true
  sayings : ∀ e, s.tree.isFile (root / e.manifestName) = true → (saying? s root e).isSome

/-- What is known once all sources have been looked at. -/
def known (s : Snapshot) (root : Path) (forced : String) : Resolution :=
  takeOffers (fallbackOffers s root)
    ((Resolution.mk (forcedLanguage forced) "" false ∅).adoptAll (sayings s root))

/-- Manifests are found where they stand, once each can be asked for. -/
theorem discover_eq (tree : FileTree) (root : Path) :
    Registry.full.discover tree root =
      ((Registry.full.places root).forM fun m => tree.requireShort m.2).map fun _ =>
        Registry.full.present tree root := by
  rw [Registry.discover]
  cases (Registry.full.places root).forM fun m => tree.requireShort m.2 <;> rfl

theorem discover_eq_ok {tree : FileTree} {root : Path} {found : List (Ecosystem × Path)} :
    Registry.full.discover tree root = .ok found ↔
      (Registry.full.discover tree root).isOk = true ∧
        found = Registry.full.present tree root := by
  rw [discover_eq]
  cases (Registry.full.places root).forM fun m => tree.requireShort m.2 with
  | error error => simp [Except.map, Except.isOk, Except.toBool]
  | ok u => simp [Except.map, Except.isOk, Except.toBool, eq_comm]

theorem gather_eq_ok {s : Snapshot} {root : Path} {hs : List Hints} :
    gather s root = .ok hs ↔ Readable s root ∧ sayings s root = hs := by
  have hall : (∀ e ∈ Ecosystem.all, s.tree.isFile (root / e.manifestName) = true →
      (saying? s root e).isSome) ↔
      ∀ e, s.tree.isFile (root / e.manifestName) = true → (saying? s root e).isSome := by
    simp [Ecosystem.mem_all]
  simp only [gather, bind_ok_iff, mapError_ok_iff, discover_eq_ok, present_full]
  constructor
  · rintro ⟨_, hdir, _, ⟨hok, rfl⟩, hread⟩
    obtain ⟨hsaid, hs⟩ := outcome_readManifests.1 hread
    exact ⟨⟨hdir, hok, hall.1 hsaid⟩, hs⟩
  · rintro ⟨hr, hs⟩
    have hread := outcome_readManifests.2 ⟨hall.2 hr.sayings, hs⟩
    exact ⟨(), hr.directory, _, ⟨hr.discover, rfl⟩, hread⟩

/-- **A fingerprint exists iff the directory and its manifests can be read**, and then it is the
conclusion from what is known. -/
theorem resolve_eq_ok {s : Snapshot} {root : Path} {forced : String} {d : Detection} :
    (resolve s root forced).outcome = .ok d ↔
      Readable s root ∧ conclude s.tree root (known s root forced) = d := by
  rw [outcome_resolve]
  constructor
  · intro h
    cases hg : gather s root with
    | error failure =>
      rw [hg] at h
      cases h
    | ok hs =>
      rw [hg] at h
      obtain ⟨hr, rfl⟩ := gather_eq_ok.1 hg
      exact ⟨hr, Except.ok.inj h⟩
  · rintro ⟨hr, rfl⟩
    rw [gather_eq_ok.2 ⟨hr, rfl⟩]
    rfl

end Detection

end Fingerprint
