/-
What a scan reports. Of each source it is said on its own which events it
gives rise to: an unknown forced language, a manifest that stands in the
directory, a file that a fallback looks at. The configuration files are looked
at only while no source before them has named an entrypoint. A scan that
comes to a fingerprint reports these events, each once and in this order, and
at last the fingerprint (`resolve_reports`).
-/
import Fingerprint.Proofs.Detection.ForcedLanguage
import Fingerprint.Proofs.Detection.Totality

namespace Fingerprint

theorem Path.name_join_name (p : Path) {name : String} (h : IsName name) : (p / name).name = name := by
  rw [join_name p h, Path.name, List.getLastD_concat]

theorem Traced.events_bind_ofExcept {ε α β : Type} {x : Except ε α} {a : α} (h : x = .ok a)
    (f : α → Traced ε β) : ((ofExcept x).bind f).events = (f a).events :=
  (events_bind_ok h f).trans (List.nil_append _)

namespace Manifest

variable {e : Ecosystem} {beside : String → Except FileError Bool} {text : String} {h : Hints}
  {hints : Json.Value → Except FileError Hints}

instance (e : Ecosystem) : Decidable (IsJson e) := inferInstanceAs (Decidable (_ ∨ _))

/-- What is wrong with a text that should be a JSON object. -/
def malformed? (text : String) : Option Malformed :=
  match Json.read text with
  | .ok (.object _) => none
  | .ok _ => some .notAnObject
  | .error error => some (.syntaxError error)

/-- A document that can be read is reported iff it is no object. -/
theorem events_readObject (hread : (readObject e hints text).outcome = .ok h) :
    (readObject e hints text).events =
      (malformed? text).toList.map (.malformedManifest e.manifestName) := by
  unfold readObject at hread ⊢
  unfold malformed?
  cases htext : Json.read text with
  | error error =>
    rw [htext] at hread
    cases error with
    | tooManyDigits count => cases hread
    | malformed error => rfl
  | ok v => cases v <;> rfl

theorem events_read (hread : (read e beside text).outcome = .ok h) :
    (read e beside text).events =
      if IsJson e then (malformed? text).toList.map (.malformedManifest e.manifestName) else [] := by
  cases e with
  | node => exact events_readObject hread
  | php => exact events_readObject hread
  | rust => rfl
  | python => rfl
  | ruby => rfl
  | go => rfl
  | swift => rfl

end Manifest

theorem Resolution.named?_eq_none_iff {r : Resolution} :
    r.named? = none ↔ r.entrypoint.isEmpty = true := by
  cases h : r.entrypoint.isEmpty <;> simp [named?, Detection.firstNamed?, h]

namespace Detection

variable {ε : Type} {s : Snapshot} {root : Path} {forced : String} {e : Ecosystem}

/-- What is reported of a forced language: that it is unknown. -/
def forcedReports (forced : String) : List Event :=
  let name := Language.normalName forced
  if name ≠ "" ∧ Language.withName? name = none then [.unknownForcedLanguage name] else []

/-- What is reported of the manifest of an ecosystem, if it is there: that it cannot be read, or
that it was found and, if it should be a JSON object and is none, that it is malformed. -/
def manifestReports (s : Snapshot) (root : Path) (e : Ecosystem) : List Event :=
  if s.tree.isFile (root / e.manifestName) then
    match s.readLossy (root / e.manifestName) with
    | .error error => [.manifestUnreadable e.manifestName error.message]
    | .ok text =>
      .manifestFound e.manifestName e ::
        if Manifest.IsJson e then
          (Manifest.malformed? text).toList.map (.malformedManifest e.manifestName)
        else []
  else []

/-- What is reported of another file: that it is there and cannot be read. -/
def fileReports (s : Snapshot) (root : Path) (name : String) : List Event :=
  if s.tree.isFile (root / name) then
    match s.readLossy (root / name) with
    | .error error => [.fileUnreadable name error.message]
    | .ok _ => []
  else []

/-- What is reported of configuration files, each of which counts only if no entrypoint is offered
before it. -/
def configReports (s : Snapshot) (root : Path) (earlier : List Offer) : List String → List Event
  | [] => []
  | name :: names =>
    (if firstNamed? earlier = none then fileReports s root name else []) ++
      configReports s root (earlier ++ configOffers s root [name]) names

/-- What is reported of a directory before its fingerprint. -/
def reports (s : Snapshot) (root : Path) (forced : String) : List Event :=
  forcedReports forced ++ Ecosystem.all.flatMap (manifestReports s root) ++
    fileReports s root processFile ++
    configReports s root ((sayings s root).map Hints.offer ++ processOffers s root) configFiles

/-- What is reported of a fingerprint. -/
def finalReport (root : Path) (d : Detection) : Event :=
  .resolved root.toString d.language d.entrypoint d.guessed d.dependencies.keys

theorem events_forceLanguage (forced : String) :
    (forceLanguage forced : Traced ε (Option Language)).events = forcedReports forced := by
  unfold forceLanguage forcedReports
  simp only [Language.ofName?_normalName]
  by_cases h : Language.normalName forced ≠ "" ∧
      Language.withName? (Language.normalName forced) = none
  · rw [if_pos h, if_pos (by simpa using h)]
    rfl
  · rw [if_neg h, if_neg (by simpa using h)]
    rfl

theorem events_readManifest (hf : s.tree.isFile (root / e.manifestName) = true)
    (hsaid : (saying? s root e).isSome) :
    (readManifest s e (root / e.manifestName)).events = manifestReports s root e := by
  obtain ⟨h, hh⟩ := Option.isSome_iff_exists.1 hsaid
  unfold readManifest manifestReports
  rw [if_pos hf, Path.name_join_name root (isName_manifestName e)]
  rw [saying?, if_pos hf] at hh
  cases hread : s.readLossy (root / e.manifestName) with
  | error error => rfl
  | ok text =>
    rw [hread] at hh
    exact congrArg _ (Manifest.events_read (toOption_eq_some_iff.1 hh))

theorem events_readManifests {es : List Ecosystem}
    (h : ∀ e ∈ es, s.tree.isFile (root / e.manifestName) = true → (saying? s root e).isSome) :
    (readManifests s ((es.map fun e => (e, root / e.manifestName)).filter fun m =>
        s.tree.isFile m.2)).events = es.flatMap (manifestReports s root) := by
  induction es with
  | nil => rfl
  | cons e es ih =>
    rw [List.forall_mem_cons] at h
    rw [List.map_cons, List.filter_cons, List.flatMap_cons, ← ih h.2]
    cases hf : s.tree.isFile (root / e.manifestName) with
    | false =>
      have hnone : manifestReports s root e = [] := by simp [manifestReports, hf]
      rw [hnone]
      rfl
    | true =>
      obtain ⟨said, hsaid⟩ := Option.isSome_iff_exists.1 (h.1 hf)
      have hrest := outcome_readManifests.2 ⟨h.2, rfl⟩
      rw [if_pos rfl, readManifests, ← events_readManifest hf (h.1 hf)]
      refine (Traced.events_bind_ok ((read_eq_saying? hf).2 hsaid) _).trans (congrArg _ ?_)
      exact (Traced.events_bind_ok hrest _).trans (List.append_nil _)

theorem isName_processFile : IsName processFile := by decide

theorem isName_of_mem_configFiles : ∀ name ∈ configFiles, IsName name := by decide

theorem events_readIfFile {name : String} (h : IsName name)
    (hasked : s.tree.requireShort (root / name) = .ok ()) :
    (readIfFile s (root / name)).events = fileReports s root name := by
  rw [readIfFile, fileReports, FileTree.checkFile, hasked]
  refine (Traced.events_bind_ofExcept (a := s.tree.isFile (root / name)) rfl _).trans ?_
  split
  · rw [Path.name_join_name root h]
    cases s.readLossy (root / name) <;> rfl
  · rfl

theorem events_tryProcessFile (hasked : s.tree.requireShort (root / processFile) = .ok ())
    (r : Resolution) : (tryProcessFile s root r).events = fileReports s root processFile := by
  refine (Traced.events_bind_ok (outcome_readIfFile_of_short hasked) _).trans ?_
  rw [events_readIfFile isName_processFile hasked]
  cases readable? s (root / processFile) <;> exact List.append_nil _

theorem configReports_of_named {earlier : List Offer} (h : firstNamed? earlier ≠ none)
    (names : List String) : configReports s root earlier names = [] := by
  induction names generalizing earlier with
  | nil => rfl
  | cons name names ih =>
    have hlater : firstNamed? (earlier ++ configOffers s root [name]) ≠ none := by
      obtain ⟨o, ho⟩ := Option.ne_none_iff_exists'.1 h
      rw [Resolution.firstNamed?_append, ho]
      nofun
    rw [configReports, if_neg h, ih hlater]
    rfl

/-- **Configuration files are reported while no entrypoint is known.** -/
theorem events_tryConfigFiles {names : List String}
    (hnames : ∀ name ∈ names, IsName name ∧ s.tree.requireShort (root / name) = .ok ())
    {r : Resolution} {earlier : List Offer} (h : r.named? = firstNamed? earlier) :
    (tryConfigFiles s root names r).events = configReports s root earlier names := by
  induction names generalizing r earlier with
  | nil => rfl
  | cons name names ih =>
    rw [List.forall_mem_cons] at hnames
    rw [tryConfigFiles]
    split
    next hknown =>
      have hnamed : firstNamed? earlier ≠ none := by
        rw [← h, ne_eq, Resolution.named?_eq_none_iff]
        simpa using hknown
      rw [configReports_of_named hnamed]
      rfl
    next hunknown =>
      have hnone : firstNamed? earlier = none := by
        rw [← h, Resolution.named?_eq_none_iff]
        simpa using hunknown
      rw [configReports, if_pos hnone]
      obtain ⟨⟨hn, hasked⟩, hnames⟩ := hnames
      refine (Traced.events_bind_ok (outcome_readIfFile_of_short hasked) _).trans ?_
      rw [events_readIfFile hn hasked]
      refine congrArg _ ?_
      have hnext : (takeOffers (configOffers s root [name]) r).named? =
          firstNamed? (earlier ++ configOffers s root [name]) := by
        rw [Resolution.named?_takeOffers, Resolution.firstNamed?_append, h]
      rw [← ih hnames hnext]
      cases hr : readable? s (root / name) <;> simp [configOffers, hr, takeOffers]

/-- The conventional places are not read, so nothing is reported of them. -/
theorem events_fallBack (hasked : ∀ q ∈ fallbackFiles, s.tree.requireShort (root / q) = .ok ())
    {r : Resolution} {earlier : List Offer} (h : r.named? = firstNamed? earlier) :
    (fallBack s root r).events =
      fileReports s root processFile ++
        configReports s root (earlier ++ processOffers s root) configFiles := by
  have hprocess := hasked processFile (by decide)
  have hconfig : ∀ name ∈ configFiles,
      IsName name ∧ s.tree.requireShort (root / name) = .ok () := fun name hname =>
    ⟨isName_of_mem_configFiles name hname, hasked name (by simp [fallbackFiles, hname])⟩
  have hnext : (takeOffers (processOffers s root) r).named? =
      firstNamed? (earlier ++ processOffers s root) := by
    rw [Resolution.named?_takeOffers, Resolution.firstNamed?_append, h]
  have hfirst := (tryProcessFile_comesTo s root r).eq_ok (by simpa [questions] using hprocess)
  have hsecond :=
    (tryConfigFiles_comesTo s root configFiles (takeOffers (processOffers s root) r)).eq_ok
    (List.forall_mem_map.2 fun name hname => (hconfig name hname).2)
  refine (Traced.events_bind_ok hfirst _).trans ?_
  rw [events_tryProcessFile hprocess]
  refine congrArg _ ((Traced.events_bind_ok hsecond _).trans ?_)
  rw [events_tryConfigFiles hconfig hnext]
  exact List.append_nil _

theorem severity_le (event : Event) : event.severity.number ≤ Log.Severity.warning.number := by
  cases event <;> simp [Event.severity, Log.Severity.number]

/-- **Every source is reported once, and none as an error.** A scan that comes to a fingerprint
reports an unknown forced language, then each manifest that is there in order of precedence, then
the other files that are there, are looked at and cannot be read, and last the fingerprint. -/
theorem resolve_reports {d : Detection} (h : (resolve s root forced).outcome = .ok d) :
    (resolve s root forced).events = reports s root forced ++ [finalReport root d] ∧
      ∀ event ∈ (resolve s root forced).events,
        event.severity.number ≤ Log.Severity.warning.number := by
  obtain ⟨hr, rfl⟩ := resolve_eq_ok.1 h
  refine ⟨?_, fun event _ => severity_le event⟩
  have hsaid : ∀ e ∈ Ecosystem.all, s.tree.isFile (root / e.manifestName) = true →
      (saying? s root e).isSome := fun e _ => hr.sayings e
  have hread : (readManifests s (Registry.full.present s.tree root)).outcome =
      .ok (sayings s root) := by
    rw [present_full]
    exact outcome_readManifests.2 ⟨hsaid, rfl⟩
  have hfound : (Registry.full.discover s.tree root).mapError Failure.ofFile =
      .ok (Registry.full.present s.tree root) :=
    mapError_ok_iff.2 (discover_eq_ok.2 ⟨hr.discover, rfl⟩)
  have hnamed : ((Resolution.mk (forcedLanguage forced) "" false ∅).adoptAll (sayings s root)).named? =
      firstNamed? ((sayings s root).map Hints.offer) := by
    rw [Resolution.named?_adoptAll]
    rfl
  have hshort := requireShort_of_discover hr.directory hr.discover
  have hasked : ∀ q ∈ fallbackFiles, s.tree.requireShort (root / q) = .ok () :=
    fun q hq => hshort q (mem_inputs_of_mem_fallbackFiles q hq)
  have hknown : ((fallBack s root ((Resolution.mk (forcedLanguage forced) "" false ∅).adoptAll
      (sayings s root))).mapError Failure.ofFile).outcome = .ok (known s root forced) :=
    mapError_ok_iff.2 (outcome_fallBack hasked _)
  have hdone : (finalize s.tree root (known s root forced)).mapError Failure.ofFile =
      .ok (conclude s.tree root (known s root forced)) :=
    mapError_ok_iff.2 (finalize_eq (hshort _ (by decide)) _)
  simp only [reports, List.append_assoc]
  refine (Traced.events_bind_ofExcept hr.directory _).trans ?_
  refine (Traced.events_bind_ok (outcome_forceLanguage forced) _).trans ?_
  rw [events_forceLanguage]
  refine congrArg _ ((Traced.events_bind_ofExcept hfound _).trans ?_)
  refine (Traced.events_bind_ok hread _).trans ?_
  rw [present_full, events_readManifests hsaid]
  refine congrArg _ ((Traced.events_bind_ok hknown _).trans ?_)
  refine (congrArg (· ++ _) (events_fallBack hasked hnamed)).trans ?_
  rw [List.append_assoc]
  exact congrArg _ (congrArg _ (Traced.events_bind_ofExcept hdone _))

/-- A directory in which little can be read. -/
def brokenSnapshot : Snapshot where
  tree := {
    entries := Table.ofList [
      (["package.json"], .file "[]".toUTF8.toList),
      (["Cargo.toml"], .file []),
      (["Procfile"], .file []),
      ([".config.ts"], .file "entry = \"app.ts\"".toUTF8.toList),
      ([".config.toml"], .file [])] }
  unreadable := ["Cargo.toml", "Procfile", ".config.toml"]

/-- The fingerprint of that directory, its language being forced. -/
def brokenDetection : Detection where
  language := .unknown
  entrypoint := "app.ts"
  guessed := true
  dependencies := Table.ofList [(.node, ∅), (.rust, ∅)]

/-- The last configuration file cannot be read either, but by then an entrypoint is known. -/
theorem resolve_reports_broken :
    (resolve brokenSnapshot Path.here " COBOL ").events =
      [.unknownForcedLanguage "cobol",
        .manifestFound "package.json" .node,
        .malformedManifest "package.json" .notAnObject,
        .manifestUnreadable "Cargo.toml" "[Errno 13] Permission denied: 'Cargo.toml'",
        .fileUnreadable "Procfile" "[Errno 13] Permission denied: 'Procfile'",
        .resolved "." .unknown "app.ts" true [.node, .rust]] := by
  have h : (resolve brokenSnapshot Path.here " COBOL ").outcome = .ok brokenDetection := by
    decide +kernel
  have hreports : reports brokenSnapshot Path.here " COBOL " =
      [.unknownForcedLanguage "cobol",
        .manifestFound "package.json" .node,
        .malformedManifest "package.json" .notAnObject,
        .manifestUnreadable "Cargo.toml" "[Errno 13] Permission denied: 'Cargo.toml'",
        .fileUnreadable "Procfile" "[Errno 13] Permission denied: 'Procfile'"] := by
    decide +kernel
  rw [(resolve_reports h).1, hreports]
  rfl

end Detection

end Fingerprint
