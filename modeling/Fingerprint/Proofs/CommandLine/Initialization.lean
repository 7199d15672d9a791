/-
The steps of initializing a project: the project directory is made, then it is
looked at, then the two documents and the missing files of the scaffold are
written into it. The result is the same whether it is read off the steps or
off the command (`init_eq_ok`, `tree_init_cases`), and what is written is known
by name: the documents, and files of the scaffold where nothing stood
(`changes_carryOut`, `mem_scaffold`).
-/
import Fingerprint.CommandLine.Commands
import Fingerprint.Proofs.FileTree.Writes

namespace Fingerprint

namespace CommandLine

open FileTree Scaffold

variable {w : Surroundings} {r : InitRequest} {t : FileTree}

/-- The names of the two documents. -/
def documentNames : List String := [Artifact.primaryFile, Artifact.snapshotFile]

/-- The names of the files that every new project is given, if they are missing. -/
def bootstrapNames : List String :=
  ["loader.js", "loader.ts", "loader.py", "loader.rs", "README.md", ".gitignore"]

/-- The names of the manifests that a new project starts with. -/
def starterNames : List String := ["package.json", "requirements.txt"]

theorem isName_of_mem {name : String} (h : name ∈ documentNames ++ bootstrapNames ++ starterNames) :
    IsName name := by
  have hall : ∀ n ∈ documentNames ++ bootstrapNames ++ starterNames, IsName n := by decide
  exact hall name h

theorem map_fst_manifests (p : Plan) : p.manifests.map Prod.fst = documentNames := rfl

/-- A file of a new project has one of the names, that of a manifest only if the directory was
empty. -/
theorem mem_files {project description author : String} {l : Language} {wasEmpty : Bool}
    {f : String × String} (h : f ∈ Scaffold.files project l description author wasEmpty) :
    f.1 ∈ bootstrapNames ∨ f.1 ∈ starterNames ∧ wasEmpty = true := by
  have hloader : loaderFile l ∈ bootstrapNames := by cases l <;> decide
  have hstarter : ∀ g ∈ starterManifest project description author l, g.1 ∈ starterNames := by
    intro g hg
    unfold starterManifest at hg
    split at hg
    · rw [List.mem_singleton.1 hg]
      simp [starterNames]
    · split at hg
      · rw [List.mem_singleton.1 hg]
        simp [starterNames]
      · cases hg
  simp only [Scaffold.files, List.mem_cons, List.mem_append, List.not_mem_nil, or_false] at h
  rcases h with rfl | h | rfl | rfl
  · exact .inl hloader
  · cases wasEmpty with
    | true => exact .inr ⟨hstarter f h, rfl⟩
    | false => cases h
  · exact .inl (by simp [bootstrapNames])
  · exact .inl (by simp [bootstrapNames])

/-- What is planned for a directory, given whether it was empty and what was found. -/
def planOf (t : FileTree) (r : InitRequest) (wasEmpty : Bool) (d : Detection)
    (docs : Artifact.Documents) : Plan :=
  ⟨d, docs, (Scaffold.files r.project d.language r.description r.author wasEmpty).filter fun f =>
    !t.pathExists (r.directory / f.1)⟩

theorem outcome_detect {s : Snapshot} {root : Path} {language : String} {d : Detection} :
    (detect s root language).outcome = .ok d ↔
      (Detection.resolve s root language).outcome = .ok d := by
  rw [detect, Traced.outcome_mapError, mapError_ok_iff]

theorem plan_eq_ok {policy : RuntimePolicy} {p : Plan} : (plan w t r policy).outcome = .ok p ↔
    ∃ wasEmpty d docs, t.isEmptyDirectory r.directory = .ok wasEmpty ∧
      (Detection.resolve { w.snapshot with tree := t } r.directory r.language).outcome = .ok d ∧
      documents r.project d w.now policy = .ok docs ∧ planOf t r wasEmpty d docs = p := by
  simp only [plan, Traced.outcome_bind, Traced.outcome_ofExcept, Traced.outcome_pure,
    bind_ok_iff, mapError_ok_iff, outcome_detect, Except.ok.injEq, planOf]
  constructor
  · rintro ⟨wasEmpty, hempty, d, hd, docs, hdocs, rfl⟩
    exact ⟨wasEmpty, d, docs, hempty, hd, hdocs, rfl⟩
  · rintro ⟨wasEmpty, d, docs, hempty, hd, hdocs, rfl⟩
    exact ⟨wasEmpty, hempty, d, hd, docs, hdocs, rfl⟩

/-- What a plan is based on. -/
theorem sources_of_plan {policy : RuntimePolicy} {p : Plan}
    (h : (plan w t r policy).outcome = .ok p) :
    (Detection.resolve { w.snapshot with tree := t } r.directory r.language).outcome =
        .ok p.detection ∧
      documents r.project p.detection w.now policy = .ok p.documents := by
  obtain ⟨-, d, docs, -, hd, hdocs, rfl⟩ := plan_eq_ok.1 h
  exact ⟨hd, hdocs⟩

/-- What the scaffold of a plan holds: files with the names of a new project where nothing is, a
manifest of packages only where nothing was before. -/
theorem mem_scaffold {policy : RuntimePolicy} {p : Plan}
    (h : (plan w t r policy).outcome = .ok p) {f : String × String} (hf : f ∈ p.scaffold) :
    t.pathExists (r.directory / f.1) = false ∧
      (f.1 ∈ bootstrapNames ∨ f.1 ∈ starterNames ∧ t.isEmptyDirectory r.directory = .ok true) := by
  obtain ⟨wasEmpty, d, docs, hempty, -, -, rfl⟩ := plan_eq_ok.1 h
  obtain ⟨hmem, hmissing⟩ := List.mem_filter.1 hf
  refine ⟨by simpa using hmissing, ?_⟩
  rcases mem_files hmem with hb | ⟨hs, rfl⟩
  · exact .inl hb
  · exact .inr ⟨hs, hempty⟩

theorem carryOut_eq_ok {p : Plan} {out : String} : (carryOut t r p).2.outcome = .ok out ↔
    (∃ paths, (writeFiles t r.directory p.manifests).2.outcome = .ok paths) ∧
      (∃ paths, (writeFiles (writeFiles t r.directory p.manifests).1 r.directory
        p.scaffold).2.outcome = .ok paths) ∧ initText r p = out := by
  unfold carryOut
  simp only
  cases hfirst : (writeFiles t r.directory p.manifests).2.outcome with
  | error e => simp
  | ok paths =>
    cases hsecond : (writeFiles (writeFiles t r.directory p.manifests).1 r.directory
      p.scaffold).2.outcome with
    | error e =>
      simp only [reduceCtorEq, exists_false, false_and, and_false, iff_false]
      intro h
      cases h
    | ok rest =>
      simp only [Except.ok.injEq, exists_eq', true_and]
      constructor
      · intro h
        cases h
        rfl
      · rintro rfl
        rfl

theorem tree_carryOut_cases (t : FileTree) (r : InitRequest) (p : Plan) :
    (carryOut t r p).1 = (writeFiles t r.directory p.manifests).1 ∨
      (carryOut t r p).1 = (writeFiles (writeFiles t r.directory p.manifests).1 r.directory
        p.scaffold).1 := by
  unfold carryOut
  simp only
  split
  · exact .inl rfl
  · exact .inr rfl

theorem tree_carryOut {p : Plan} {out : String} (h : (carryOut t r p).2.outcome = .ok out) :
    (carryOut t r p).1 =
      (writeFiles (writeFiles t r.directory p.manifests).1 r.directory p.scaffold).1 := by
  obtain ⟨⟨paths, hfirst⟩, -, -⟩ := carryOut_eq_ok.1 h
  simp [carryOut, hfirst]

/-- **Carrying a plan out writes its files and nothing else.** -/
theorem changes_carryOut {p : Plan} (hdir : t.isDirectory r.directory = true)
    (hn : ∀ f ∈ p.manifests ++ p.scaffold, IsName f.1) :
    Changes (IsWritten (carryOut t r p).1 r.directory (p.manifests ++ p.scaffold)) t
      (carryOut t r p).1 := by
  rw [List.forall_mem_append] at hn
  have hfirst := changes_writeFiles hdir hn.1
  have hsecond := changes_writeFiles (hfirst.isDirectory hdir) hn.2
  rcases tree_carryOut_cases t r p with h | h
  · rw [h]
    exact hfirst.mono fun l e => isWritten_of_subset (by simp)
  · rw [h]
    refine .trans (hfirst.mono fun l e hw => ?_)
      (hsecond.mono fun l e => isWritten_of_subset (by simp))
    obtain ⟨f, hf, hl, he⟩ := hw
    exact ⟨f, by simp [hf], hsecond.locate hl, he⟩

theorem init_eq_ok {out : String} : (init w r).2.outcome = .ok out ↔
    (w.snapshot.tree.makePath r.directory).2 = .ok () ∧ ∃ pol p,
      policy w.environment = .ok pol ∧
      (plan w (w.snapshot.tree.makePath r.directory).1 r pol).outcome = .ok p ∧
      (carryOut (w.snapshot.tree.makePath r.directory).1 r p).2.outcome = .ok out := by
  unfold init
  simp only
  cases policy w.environment with
  | error e => simp
  | ok pol =>
    rcases w.snapshot.tree.makePath r.directory with ⟨made, _ | _⟩
    next e => cases e <;> simp
    next =>
      cases hp : (plan w made r pol).outcome <;> simp [hp]

/-- What the command leaves behind if it comes to an end. -/
theorem tree_init {pol : RuntimePolicy} {p : Plan} (hpol : policy w.environment = .ok pol)
    (hmade : (w.snapshot.tree.makePath r.directory).2 = .ok ())
    (hp : (plan w (w.snapshot.tree.makePath r.directory).1 r pol).outcome = .ok p) :
    (init w r).1 = (carryOut (w.snapshot.tree.makePath r.directory).1 r p).1 := by
  unfold init
  simp only [hpol]
  rcases hm : w.snapshot.tree.makePath r.directory with ⟨made, _ | _⟩
  · rw [hm] at hmade
    cases hmade
  · rw [hm] at hp
    simp [hp]

/-- What the command leaves behind, wherever it stops. -/
theorem tree_init_cases (w : Surroundings) (r : InitRequest) :
    (init w r).1 = w.snapshot.tree ∨
      (init w r).1 = (w.snapshot.tree.makePath r.directory).1 ∨
      (w.snapshot.tree.makePath r.directory).2 = .ok () ∧ ∃ pol p,
        (plan w (w.snapshot.tree.makePath r.directory).1 r pol).outcome = .ok p ∧
        (init w r).1 = (carryOut (w.snapshot.tree.makePath r.directory).1 r p).1 := by
  cases hpol : policy w.environment with
  | error e => exact .inl (by simp [init, hpol])
  | ok pol =>
    right
    rcases hm : w.snapshot.tree.makePath r.directory with ⟨made, e | _⟩
    · left
      cases e <;> simp [init, hpol, hm]
    · cases hp : (plan w made r pol).outcome with
      | error e => exact .inl (by simp [init, hpol, hm, hp])
      | ok p => exact .inr ⟨rfl, pol, p, hp, by simp [init, hpol, hm, hp]⟩

end CommandLine

end Fingerprint
