/-
When a project can be started. Files are written into a directory unless one of
their names leads to a directory or to no place (`writeFiles_isOk_iff`). There is
room for the name of every file of a project where the manifests can be looked
for. So the command succeeds iff its directory can be made, the settings hold,
the sources can be read, the time is within range and no document's name is that
of a directory (`exit_eq_zero_iff`).
-/
import Fingerprint.Proofs.CommandLine.Repetition
import Fingerprint.Proofs.Detection.Totality

namespace Fingerprint

namespace FileTree

variable {t t' : FileTree} {dir : Path} {name : String}

theorem isDirectory_eq_false_of_pathExists {p : Path} (h : t.pathExists p = false) :
    t.isDirectory p = false := by
  refine Bool.eq_false_iff.2 fun hd => ?_
  obtain ⟨hnul, l, hl, hhere⟩ := isDirectory_iff.1 hd
  rw [pathExists_iff.2 ⟨hnul, l, _, hl, hhere⟩] at h
  cases h

theorem isFile_eq_false_of_pathExists {p : Path} (h : t.pathExists p = false) :
    t.isFile p = false := by
  refine Bool.eq_false_iff.2 fun hf => ?_
  obtain ⟨hnul, l, bytes, hl, hhere⟩ := isFile_iff.1 hf
  rw [pathExists_iff.2 ⟨hnul, l, _, hl, hhere⟩] at h
  cases h

/-- Whether a name in a directory leads to where a file can be written. -/
def CanWrite (t : FileTree) (dir : Path) (name : String) : Prop :=
  ∃ l, t.locate (dir / name) = .ok l ∧ t.at? l ≠ some .directory

theorem Changes.canWrite_iff {P : Location → Entry → Prop} (hc : Changes P t t')
    (hfiles : ∀ l e, P l e → e ≠ .directory) (hdir : t.isDirectory dir = true) (hn : IsName name) :
    t'.CanWrite dir name ↔ t.CanWrite dir name := by
  have hsame : ∀ l, t'.at? l = some .directory ↔ t.at? l = some .directory := by
    refine fun l => ⟨fun h => ?_, hc.directory⟩
    rcases hc.entry l with hl | ⟨-, e, he, -, hP⟩
    · rwa [← hl]
    · exact absurd (Option.some.inj (he.symm.trans h)) (hfiles l e hP)
  simp only [CanWrite, hc.locate_join hdir hn, ne_eq, hsame]

end FileTree

namespace Scaffold

open FileTree

variable {t t' : FileTree} {dir : Path} {name : String}

theorem written_ne_directory (content : String) : written content ≠ .directory := Entry.noConfusion

/-- A file is written iff its name leads to where it can be. -/
theorem writeFile_isOk_iff (hdir : t.isDirectory dir = true) (hn : IsName name) (content : String) :
    (writeFile t (dir / name) content).2 = .ok () ↔ t.CanWrite dir name := by
  constructor
  · intro h
    rcases writeFile_cases hdir hn content with ⟨e, he⟩ | ⟨l, hl, hfile, -⟩
    · rw [he] at h
      cases h
    · exact ⟨l, hl, hfile⟩
  · rintro ⟨l, hl, hfile⟩
    rw [writeFile_of_isDirectory hdir hn,
      write_eq_ok.2 ⟨hasNul_join_of_isDirectory hdir hn, l, hl, hfile, rfl⟩]

/-- **Files are written iff every name leads to where a file can be**: one that has been written
does not stand in the way of another. -/
theorem writeFiles_isOk_iff {files : List (String × String)} (hdir : t.isDirectory dir = true)
    (hn : ∀ f ∈ files, IsName f.1) :
    (∃ paths, (writeFiles t dir files).2.outcome = .ok paths) ↔
      ∀ f ∈ files, t.CanWrite dir f.1 := by
  induction files generalizing t with
  | nil => exact ⟨fun _ f hf => absurd hf List.not_mem_nil, fun _ => ⟨[], rfl⟩⟩
  | cons f rest ih =>
    rw [List.forall_mem_cons] at hn
    rw [List.forall_mem_cons, ← writeFile_isOk_iff hdir hn.1 f.2, writeFiles]
    rcases writeFile_cases hdir hn.1 f.2 with ⟨e, he⟩ | ⟨l, -, hfile, he⟩
    · rw [he]
      constructor
      · rintro ⟨paths, h⟩
        cases h
      · rintro ⟨h, -⟩
        cases h
    · rw [he]
      have hput := changes_put_written hfile f.2
      have hfiles : ∀ m e, m = l ∧ e = written f.2 → e ≠ .directory :=
        fun m e he => he.2 ▸ written_ne_directory f.2
      have hrest : (∀ g ∈ rest, (t.put l (written f.2)).CanWrite dir g.1) ↔
          ∀ g ∈ rest, t.CanWrite dir g.1 :=
        forall₂_congr fun g hg => hput.canWrite_iff hfiles hdir (hn.2 g hg)
      rw [← hrest, ← ih (hput.isDirectory hdir) hn.2]
      simp only [Traced.outcome_bind, Traced.outcome_pure, Traced.outcome_report, bind_ok_iff]
      constructor
      · rintro ⟨-, -, -, paths, hpaths, -⟩
        exact ⟨trivial, paths, hpaths⟩
      · rintro ⟨-, paths, hpaths⟩
        exact ⟨_, (), trivial, paths, hpaths, rfl⟩

end Scaffold

namespace CommandLine

open FileTree Scaffold Detection

variable {t : FileTree} {dir : Path} {name : String} {w : Surroundings} {r : InitRequest} {p : Plan}

/-- Where manifests can be looked for, a file of a project can be written unless its name is that
of a directory: no name is longer than that of a manifest. -/
theorem canWrite_iff (hdir : t.isDirectory dir = true) (hroom : HasRoom dir)
    (hmem : name ∈ documentNames ++ bootstrapNames ++ starterNames) :
    t.CanWrite dir name ↔ t.isDirectory (dir / name) = false := by
  have hshort : ∀ name ∈ documentNames ++ bootstrapNames ++ starterNames,
      name.utf8ByteSize ≤ Ecosystem.python.manifestName.utf8ByteSize ∧
        name.utf8ByteSize ≤ nameLimit := by
    decide
  have hn := isName_of_mem hmem
  obtain ⟨-, d, hd, hhere⟩ := isDirectory_iff.1 hdir
  have hlong := hroom .python
  rw [Path.size_join_name dir (isName_manifestName .python)] at hlong
  have hl : t.locate (dir / name) = .ok (d ++ [name]) := by
    have hle := (hshort name hmem).1
    rw [locate_join hd hhere hn (hshort name hmem).2, if_neg]
    rw [Path.size_join_name dir hn]
    omega
  constructor
  · rintro ⟨l, hl', hfile⟩
    refine Bool.eq_false_iff.2 fun htaken => ?_
    obtain ⟨-, m, hm, hthere⟩ := isDirectory_iff.1 htaken
    cases hm.symm.trans hl'
    exact hfile hthere
  · intro hfree
    refine ⟨_, hl, fun hthere => ?_⟩
    rw [isDirectory_iff.2 ⟨hasNul_join_of_isDirectory hdir hn, _, hl, hthere⟩] at hfree
    cases hfree

theorem carryOut_isOk_iff (hdir : t.isDirectory r.directory = true)
    (hn : ∀ f ∈ p.manifests ++ p.scaffold, IsName f.1) :
    (∃ out, (carryOut t r p).2.outcome = .ok out) ↔
      ∀ f ∈ p.manifests ++ p.scaffold, t.CanWrite r.directory f.1 := by
  rw [List.forall_mem_append] at hn
  have hc := changes_writeFiles hdir hn.1
  have hfiles : ∀ l e, IsWritten (writeFiles t r.directory p.manifests).1 r.directory p.manifests
      l e → e ≠ .directory := by
    rintro l e ⟨f, -, -, rfl⟩
    exact written_ne_directory f.2
  have hscaffold : (∀ f ∈ p.scaffold,
      (writeFiles t r.directory p.manifests).1.CanWrite r.directory f.1) ↔
        ∀ f ∈ p.scaffold, t.CanWrite r.directory f.1 :=
    forall₂_congr fun f hf => hc.canWrite_iff hfiles hdir (hn.2 f hf)
  rw [List.forall_mem_append, ← hscaffold, ← writeFiles_isOk_iff hdir hn.1,
    ← writeFiles_isOk_iff (hc.isDirectory hdir) hn.2]
  simp only [carryOut_eq_ok, exists_and_left, exists_eq', and_true]

theorem documents_isOk_iff {project : String} {d : Detection} {now : Calendar.Moment}
    {pol : RuntimePolicy} :
    (∃ docs, documents project d now pol = .ok docs) ↔ now.timestamp?.isSome = true := by
  unfold documents Artifact.render?
  cases now.timestamp? <;> simp

/-- What starting a project takes. -/
structure CanStart (w : Surroundings) (r : InitRequest) : Prop where
  made : (w.snapshot.tree.makePath r.directory).2 = .ok ()
  settings : ∃ pol, policy w.environment = .ok pol
  readable : Readable { w.snapshot with tree := (w.snapshot.tree.makePath r.directory).1 }
    r.directory
  time : w.now.timestamp?.isSome = true
  documents : ∀ name ∈ documentNames,
    (w.snapshot.tree.makePath r.directory).1.isDirectory (r.directory / name) = false

theorem exists_plan (h : CanStart w r) :
    ∃ pol p, policy w.environment = .ok pol ∧
      (plan w (w.snapshot.tree.makePath r.directory).1 r pol).outcome = .ok p := by
  obtain ⟨hnul, d, hd, hhere⟩ := isDirectory_iff.1 (isDirectory_of_makePath h.made)
  obtain ⟨pol, hpol⟩ := h.settings
  obtain ⟨docs, hdocs⟩ := documents_isOk_iff.2 h.time
  exact ⟨pol, _, hpol, plan_eq_ok.2 ⟨_, _, docs, isEmptyDirectory_eq_ok.2 ⟨hnul, d, hd, hhere, rfl⟩,
    resolve_eq_ok.2 ⟨h.readable, rfl⟩, hdocs, rfl⟩⟩

theorem init_isOk_iff : (∃ out, (init w r).2.outcome = .ok out) ↔ CanStart w r := by
  constructor
  · rintro ⟨out, hout⟩
    obtain ⟨hmade, pol, p, hpol, hp, hdone⟩ := init_eq_ok.1 hout
    have hdir := isDirectory_of_makePath hmade
    obtain ⟨hd, hdocs⟩ := sources_of_plan hp
    have hreadable := (resolve_eq_ok.1 hd).1
    have hwritten := (carryOut_isOk_iff hdir (isName_of_mem_plan hp)).1 ⟨out, hdone⟩
    have hroom := (discover_isOk_iff hdir).1 hreadable.discover
    refine ⟨hmade, ⟨pol, hpol⟩, hreadable, documents_isOk_iff.1 ⟨_, hdocs⟩, fun name hname => ?_⟩
    rw [← canWrite_iff hdir hroom (by simp [hname])]
    rw [← map_fst_manifests p] at hname
    obtain ⟨f, hf, rfl⟩ := List.mem_map.1 hname
    exact hwritten f (List.mem_append_left _ hf)
  · intro h
    have hdir := isDirectory_of_makePath h.made
    have hroom := (discover_isOk_iff hdir).1 h.readable.discover
    obtain ⟨pol, p, hpol, hp⟩ := exists_plan h
    have hfree : ∀ f ∈ p.manifests ++ p.scaffold,
        (w.snapshot.tree.makePath r.directory).1.CanWrite r.directory f.1 := by
      intro f hf
      rcases List.mem_append.1 hf with hm | hs
      · have hname : f.1 ∈ documentNames := map_fst_manifests p ▸ List.mem_map_of_mem hm
        exact (canWrite_iff hdir hroom (by simp [hname])).2 (h.documents _ hname)
      · -- The files of the scaffold are planned only where nothing is.
        obtain ⟨hmissing, hname⟩ := mem_scaffold hp hs
        refine (canWrite_iff hdir hroom ?_).2 (isDirectory_eq_false_of_pathExists hmissing)
        rcases hname with hb | ⟨hb, -⟩ <;> simp [hb]
    obtain ⟨out, hdone⟩ := (carryOut_isOk_iff hdir (isName_of_mem_plan hp)).2 hfree
    exact ⟨out, init_eq_ok.2 ⟨h.made, pol, p, hpol, hp, hdone⟩⟩

/-- **Starting a project succeeds iff nothing is in its way**: there is a logger, the directory can
be made, the settings hold, the sources can be read, the time is within range, and neither
document's name is that of a directory. -/
theorem exit_eq_zero_iff {c : Call} (hr : c.request? t = some (.init r)) :
    (c.run t).exit = 0 ↔ c.logger? ≠ none ∧ CanStart (c.surroundings t) r := by
  constructor
  · intro hs
    obtain ⟨hl, hout, -⟩ := run_eq_init hr hs
    exact ⟨hl, init_isOk_iff.1 hout⟩
  · rintro ⟨hl, h⟩
    obtain ⟨out, hout⟩ := init_isOk_iff.2 h
    exact (run_of_init hr hl hout).1

end CommandLine

end Fingerprint
