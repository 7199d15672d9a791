/-
Initializing a project again. What is written into a directory that was not
empty is none of the inputs of detection (`resolve_of_isWritten`), so the
second time the same is found, no file of the scaffold is missing any more,
and both documents are written as they are. So after a run that comes to an
end, the same run at the same time changes nothing (`Settled.init_eq_self`).
-/
import Fingerprint.Proofs.CommandLine.Session
import Fingerprint.Proofs.Detection.Inputs

namespace Fingerprint.CommandLine

open FileTree Scaffold

variable {t t' : FileTree} {dir : Path} {w : Surroundings} {r : InitRequest} {p : Plan}

/-! ## What is written beside the inputs -/

/-- No input takes a name under which something is written into a directory that is not empty. -/
theorem inputs_avoid_names : ∀ q ∈ Detection.inputs, (Path.ofString q).anchor = "" ∧
    ∀ part ∈ (Path.ofString q).parts, part ≠ ".." ∧ part ∉ documentNames ++ bootstrapNames := by
  decide

theorem differAt_of_isWritten {files : List (String × String)} {names : List String}
    (hdir : t.isDirectory dir = true) (hfiles : ∀ f ∈ files, IsName f.1 ∧ f.1 ∈ names)
    (h : Changes (IsWritten t' dir files) t t') : DifferAt names t t' := by
  intro l hl
  rcases h.entry l with hsame | ⟨-, e, he, -, f, hf, hfl, rfl⟩
  · exact hsame
  · obtain ⟨-, d, hd, -⟩ := isDirectory_iff.1 hdir
    have hl' := eq_append_of_locate_join (hfiles f hf).1 (h.locate hd) hfl
    refine absurd ?_ (hl f.1 (hfiles f hf).2)
    rw [hl', List.getLast?_concat]

/-- **Files beside the inputs change no fingerprint.** -/
theorem resolve_of_isWritten {s : Snapshot} {files : List (String × String)}
    (hdir : s.tree.isDirectory dir = true)
    (hfiles : ∀ f ∈ files, f.1 ∈ documentNames ++ bootstrapNames)
    (h : Changes (IsWritten t' dir files) s.tree t') (forced : String) :
    Detection.resolve { s with tree := t' } dir forced = Detection.resolve s dir forced := by
  have hnamed : ∀ f ∈ files, IsName f.1 ∧ f.1 ∈ documentNames ++ bootstrapNames :=
    fun f hf => ⟨isName_of_mem (List.mem_append_left _ (hfiles f hf)), hfiles f hf⟩
  refine Detection.resolve_congr (h.leadsAlike_directory hdir) (fun q hq => ?_) forced
  obtain ⟨hanchor, hparts⟩ := inputs_avoid_names q hq
  exact h.leadsAlike_join (differAt_of_isWritten hdir hnamed h) hdir hanchor hparts

/-! ## What a plan leaves behind -/

theorem nodup_names_files (project : String) (l : Language) (description author : String)
    (wasEmpty : Bool) :
    ((Scaffold.files project l description author wasEmpty).map Prod.fst).Nodup := by
  cases l <;> cases wasEmpty <;>
    simp [Scaffold.files, loaderFile, starterManifest, Language.isNode]

theorem nodup_names_scaffold {pol : RuntimePolicy} (hp : (plan w t r pol).outcome = .ok p) :
    (p.scaffold.map Prod.fst).Nodup := by
  obtain ⟨wasEmpty, d, docs, -, -, -, rfl⟩ := plan_eq_ok.1 hp
  exact (nodup_names_files r.project d.language r.description r.author wasEmpty).sublist
    (List.filter_sublist.map _)

/-- What a plan that has been carried out leaves behind: all its files, with their texts. -/
theorem holds_carryOut {pol : RuntimePolicy} {out : String}
    (hdir : t.isDirectory r.directory = true) (hp : (plan w t r pol).outcome = .ok p)
    (h : (carryOut t r p).2.outcome = .ok out) :
    Holds (carryOut t r p).1 r.directory (p.manifests ++ p.scaffold) := by
  obtain ⟨⟨paths, hfirst⟩, ⟨paths', hsecond⟩, -⟩ := carryOut_eq_ok.1 h
  obtain ⟨hmanifests, hscaffold⟩ := List.forall_mem_append.1 (isName_of_mem_plan hp)
  have hfirstDir := (changes_writeFiles hdir hmanifests).isDirectory hdir
  have hother : ∀ f ∈ p.manifests, ∀ g ∈ p.scaffold, f.1 ≠ g.1 := by
    have hapart : ∀ name ∈ documentNames, name ∉ bootstrapNames ∧ name ∉ starterNames := by decide
    intro f hf g hg hname
    have hdoc : f.1 ∈ documentNames := map_fst_manifests p ▸ List.mem_map_of_mem hf
    rw [hname] at hdoc
    rcases (mem_scaffold hp hg).2 with hb | ⟨hb, -⟩
    · exact (hapart _ hdoc).1 hb
    · exact (hapart _ hdoc).2 hb
  have hdocuments := holds_of_changes hfirstDir hmanifests hscaffold hother
    (changes_writeFiles hfirstDir hscaffold)
    (holds_writeFiles hdir hmanifests (map_fst_manifests p ▸ by decide) hfirst)
  have hadded := holds_writeFiles hfirstDir hscaffold (nodup_names_scaffold hp) hsecond
  rw [tree_carryOut h]
  exact List.forall_mem_append.2 ⟨hdocuments, hadded⟩

theorem isEmptyDirectory_carryOut {pol : RuntimePolicy} {out : String}
    (hdir : t.isDirectory r.directory = true) (hp : (plan w t r pol).outcome = .ok p)
    (h : (carryOut t r p).2.outcome = .ok out) :
    (carryOut t r p).1.isEmptyDirectory r.directory = .ok false := by
  have hn := isName_of_mem_plan hp
  have hdir' := (changes_carryOut hdir hn).isDirectory hdir
  obtain ⟨-, d, hd, -⟩ := isDirectory_iff.1 hdir'
  have hmem : (Artifact.primaryFile, p.documents.primary) ∈ p.manifests ++ p.scaffold := by
    simp [Plan.manifests]
  obtain ⟨l, hl, hheld⟩ := holds_carryOut hdir hp h _ hmem
  have hl' := eq_append_of_locate_join (hn _ hmem) hd hl
  exact isEmptyDirectory_of_at? hdir' hd (hl' ▸ hheld)

/-- A plan for a directory that is not empty takes none of the names of manifests of packages. -/
theorem mem_names_of_not_empty {pol : RuntimePolicy}
    (hempty : t.isEmptyDirectory r.directory = .ok false) (hp : (plan w t r pol).outcome = .ok p) :
    ∀ f ∈ p.manifests ++ p.scaffold, f.1 ∈ documentNames ++ bootstrapNames := by
  intro f hf
  rcases List.mem_append.1 hf with hm | hs
  · exact List.mem_append_left _ (map_fst_manifests p ▸ List.mem_map_of_mem hm)
  · rcases (mem_scaffold hp hs).2 with hb | ⟨-, hwas⟩
    · exact List.mem_append_right _ hb
    · cases hempty.symm.trans hwas

theorem pathExists_carryOut {pol : RuntimePolicy} {out : String} {d : Detection}
    {docs : Artifact.Documents} (hdir : t.isDirectory r.directory = true)
    (hp : (plan w t r pol).outcome = .ok (planOf t r false d docs))
    (h : (carryOut t r (planOf t r false d docs)).2.outcome = .ok out) {f : String × String}
    (hf : f ∈ Scaffold.files r.project d.language r.description r.author false) :
    (carryOut t r (planOf t r false d docs)).1.pathExists (r.directory / f.1) = true := by
  have hchanges := changes_carryOut hdir (isName_of_mem_plan hp)
  cases hthere : t.pathExists (r.directory / f.1) with
  | true => exact hchanges.pathExists hthere
  | false =>
    have hmem : f ∈ (planOf t r false d docs).scaffold :=
      List.mem_filter.2 ⟨hf, by simp [hthere]⟩
    exact pathExists_of_holds (hchanges.isDirectory hdir)
      (isName_of_mem_plan hp f (by simp [hmem])) (holds_carryOut hdir hp h) (by simp [hmem])

/-! ## The second time -/

/-- The same surroundings at another time. -/
def Surroundings.later (w : Surroundings) (now : Calendar.Moment) (clock : Log.Clock) :
    Surroundings :=
  { w with now, clock }

/-- The fingerprint of a directory that was not empty stays the same when a plan is carried out. -/
theorem resolve_carryOut {pol : RuntimePolicy}
    (hempty : t.isEmptyDirectory r.directory = .ok false) (hp : (plan w t r pol).outcome = .ok p)
    (forced : String) :
    Detection.resolve { w.snapshot with tree := (carryOut t r p).1 } r.directory forced =
      Detection.resolve { w.snapshot with tree := t } r.directory forced := by
  have hdir := isDirectory_of_isEmptyDirectory hempty
  have hchanges := changes_carryOut hdir (isName_of_mem_plan hp)
  exact resolve_of_isWritten (s := { w.snapshot with tree := t }) hdir
    (mem_names_of_not_empty hempty hp) hchanges forced

/-- Looked at once more, perhaps at another time, the directory needs the two documents and no other
file. -/
theorem plan_carryOut {pol : RuntimePolicy} {out : String}
    (hempty : t.isEmptyDirectory r.directory = .ok false) (hp : (plan w t r pol).outcome = .ok p)
    (h : (carryOut t r p).2.outcome = .ok out) (now : Calendar.Moment) (clock : Log.Clock)
    {q : Plan} :
    (plan (w.later now clock) (carryOut t r p).1 r pol).outcome = .ok q ↔
      ∃ docs, documents r.project p.detection now pol = .ok docs ∧ ⟨p.detection, docs, []⟩ = q := by
  have hdir := isDirectory_of_isEmptyDirectory hempty
  have hsame := resolve_carryOut hempty hp r.language
  have hafter := isEmptyDirectory_carryOut hdir hp h
  obtain ⟨wasEmpty, d, docs, hwas, hd, hdocs, rfl⟩ := plan_eq_ok.1 hp
  cases hempty.symm.trans hwas
  have hplan : ∀ docs', planOf (carryOut t r (planOf t r false d docs)).1 r false d docs' =
      ⟨d, docs', []⟩ := fun docs' => congrArg (Plan.mk d docs') <|
    List.filter_eq_nil_iff.2 fun f hf => by simp [pathExists_carryOut hdir hp h hf]
  rw [← hsame] at hd
  rw [plan_eq_ok]
  constructor
  · rintro ⟨wasEmpty', d', docs', hwas', hd', hdocs', rfl⟩
    cases hafter.symm.trans hwas'
    cases hd.symm.trans hd'
    exact ⟨docs', hdocs', (hplan docs').symm⟩
  · rintro ⟨docs', hdocs', rfl⟩
    exact ⟨false, d, docs', hafter, hd, hdocs', hplan docs'⟩

theorem carryOut_of_holds (hdir : t.isDirectory r.directory = true)
    (hn : ∀ f ∈ p.manifests ++ p.scaffold, IsName f.1)
    (h : Holds t r.directory (p.manifests ++ p.scaffold)) :
    (carryOut t r p).1 = t ∧ ∃ out, (carryOut t r p).2.outcome = .ok out := by
  rw [List.forall_mem_append] at hn
  obtain ⟨hmanifests, hscaffold⟩ := List.forall_mem_append.1 h
  obtain ⟨hfirst, paths, hpaths⟩ := writeFiles_of_holds hdir hn.1 hmanifests
  obtain ⟨hsecond, paths', hpaths'⟩ := writeFiles_of_holds hdir hn.2 hscaffold
  have hdone : (carryOut t r p).2.outcome = .ok (initText r p) :=
    carryOut_eq_ok.2 ⟨⟨paths, hpaths⟩, ⟨paths', by rw [hfirst]; exact hpaths'⟩, rfl⟩
  refine ⟨?_, _, hdone⟩
  rw [tree_carryOut hdone, hfirst, hsecond]

/-! ## The command -/

/-- The same surroundings with another file tree. -/
def Surroundings.onTree (w : Surroundings) (t : FileTree) : Surroundings :=
  { w with snapshot := { w.snapshot with tree := t } }

/-- A project directory that has been initialized is not empty. -/
theorem isEmptyDirectory_init {out : String} (h : (init w r).2.outcome = .ok out) :
    (init w r).1.isEmptyDirectory r.directory = .ok false := by
  obtain ⟨hmade, pol, p, hpol, hp, hdone⟩ := init_eq_ok.1 h
  rw [tree_init hpol hmade hp]
  exact isEmptyDirectory_carryOut (isDirectory_of_makePath hmade) hp hdone

theorem init_of_carryOut {pol : RuntimePolicy} {out : String} (ht : w.snapshot.tree = t)
    (hdir : t.isDirectory r.directory = true) (hpol : policy w.environment = .ok pol)
    (hp : (plan w t r pol).outcome = .ok p) (h : (carryOut t r p).2.outcome = .ok out) :
    (init w r).2.outcome = .ok out ∧ (init w r).1 = (carryOut t r p).1 := by
  subst ht
  have hmade : (w.snapshot.tree.makePath r.directory).2 = .ok () := by
    rw [makePath_of_isDirectory hdir]
  have hsame : (w.snapshot.tree.makePath r.directory).1 = w.snapshot.tree := by
    rw [makePath_of_isDirectory hdir]
  rw [← hsame] at hp h
  refine ⟨init_eq_ok.2 ⟨hmade, pol, p, hpol, hp, h⟩, ?_⟩
  rw [tree_init hpol hmade hp, hsame]

theorem carryOut_of_init {out : String} (ht : w.snapshot.tree = t)
    (hdir : t.isDirectory r.directory = true) (h : (init w r).2.outcome = .ok out) :
    ∃ pol p, policy w.environment = .ok pol ∧ (plan w t r pol).outcome = .ok p ∧
      (carryOut t r p).2.outcome = .ok out := by
  subst ht
  have hsame : (w.snapshot.tree.makePath r.directory).1 = w.snapshot.tree := by
    rw [makePath_of_isDirectory hdir]
  obtain ⟨-, pol, p, hpol, hp, hdone⟩ := init_eq_ok.1 h
  rw [hsame] at hp hdone
  exact ⟨pol, p, hpol, hp, hdone⟩

/-- The two documents as files. -/
def documentFiles (docs : Artifact.Documents) : List (String × String) :=
  [(Artifact.primaryFile, docs.primary), (Artifact.snapshotFile, docs.environment)]

/-- Whether a file tree is one in which a project has been initialized: the directory is there, its
fingerprint is the one of before, and the documents are all that will be written into it. -/
structure Settled (w : Surroundings) (r : InitRequest) (d : Detection) (pol : RuntimePolicy)
    (t : FileTree) : Prop where
  directory : t.isDirectory r.directory = true
  policy : policy w.environment = .ok pol
  detection : (Detection.resolve w.snapshot r.directory r.language).outcome = .ok d
  resolve : Detection.resolve (w.onTree t).snapshot r.directory r.language =
    Detection.resolve w.snapshot r.directory r.language
  plan : ∀ now clock q, (plan (w.later now clock) t r pol).outcome = .ok q ↔
    ∃ docs, documents r.project d now pol = .ok docs ∧ ⟨d, docs, []⟩ = q

/-- A command that comes to an end in a directory that was not empty leaves it settled. -/
theorem settled_init {out : String}
    (hempty : w.snapshot.tree.isEmptyDirectory r.directory = .ok false)
    (h : (init w r).2.outcome = .ok out) : ∃ d pol docs, Settled w r d pol (init w r).1 ∧
      documents r.project d w.now pol = .ok docs ∧
      Holds (init w r).1 r.directory (documentFiles docs) := by
  have hdir := isDirectory_of_isEmptyDirectory hempty
  obtain ⟨pol, p, hpol, hp, hdone⟩ := carryOut_of_init rfl hdir h
  obtain ⟨-, htree⟩ := init_of_carryOut rfl hdir hpol hp hdone
  obtain ⟨hd, hdocs⟩ := sources_of_plan hp
  have hheld := (List.forall_mem_append.1 (holds_carryOut hdir hp hdone)).1
  rw [htree]
  refine ⟨p.detection, pol, p.documents, ?_, hdocs, hheld⟩
  exact {
    directory := (changes_carryOut hdir (isName_of_mem_plan hp)).isDirectory hdir
    policy := hpol
    detection := hd
    resolve := resolve_carryOut hempty hp r.language
    plan := fun now clock _ => plan_carryOut hempty hp hdone now clock }

namespace Settled

variable {d : Detection} {pol : RuntimePolicy}

/-- In a settled directory a command writes the documents of its own time and nothing else. -/
theorem tree_init (hs : Settled w r d pol t) (now : Calendar.Moment) (clock : Log.Clock)
    {out : String} (h : (init ((w.onTree t).later now clock) r).2.outcome = .ok out) :
    ∃ docs, documents r.project d now pol = .ok docs ∧
      (init ((w.onTree t).later now clock) r).1 =
        (writeFiles t r.directory (documentFiles docs)).1 := by
  obtain ⟨pol', p, hpol, hp, hdone⟩ := carryOut_of_init (t := t) rfl hs.directory h
  cases hs.policy.symm.trans hpol
  obtain ⟨-, htree⟩ := init_of_carryOut (t := t) rfl hs.directory hpol hp hdone
  obtain ⟨docs, hdocs, rfl⟩ := (hs.plan now clock p).1 hp
  refine ⟨docs, hdocs, ?_⟩
  have hnil : ∀ u : FileTree, (writeFiles u r.directory ([] : List (String × String))).1 = u :=
    fun _ => rfl
  rw [htree, tree_carryOut hdone, hnil]
  rfl

/-- In a settled directory a command that finds its documents written changes nothing. -/
theorem init_eq_self (hs : Settled w r d pol t) {docs : Artifact.Documents}
    (hdocs : documents r.project d w.now pol = .ok docs)
    (hheld : Holds t r.directory (documentFiles docs)) :
    (init (w.onTree t) r).1 = t ∧ ∃ out, (init (w.onTree t) r).2.outcome = .ok out := by
  have hp := (hs.plan w.now w.clock _).2 ⟨docs, hdocs, rfl⟩
  have hn : ∀ f ∈ documentFiles docs, IsName f.1 := by
    rintro f hf
    have hname : f.1 ∈ documentNames := List.mem_map_of_mem hf
    exact isName_of_mem (by simp [hname])
  obtain ⟨hsame, out, hdone⟩ := carryOut_of_holds (p := ⟨d, docs, []⟩) hs.directory hn hheld
  obtain ⟨hok, htree⟩ := init_of_carryOut (w := w.onTree t) (t := t) rfl hs.directory hs.policy hp
    hdone
  exact ⟨htree.trans hsame, out, hok⟩

end Settled

/-! ## The call -/

theorem exit_outcomeOf {l : Log.Logger} {clock : Log.Clock} {done : Traced Stop String} :
    (outcomeOf l clock t done).exit = 0 ↔ ∃ out, done.outcome = .ok out := by
  unfold outcomeOf
  simp only
  split <;> simp_all

theorem command_of_readRequest {s : Snapshot} {command : Command} {args : List String}
    (h : readRequest s command args = .ok (.init r)) : command = .init := by
  obtain ⟨split, -, h⟩ := bind_ok_iff.1 h
  split at h
  next => cases h
  next =>
    cases command with
    | init => rfl
    | scan | validate =>
      obtain ⟨path, -, h⟩ := bind_ok_iff.1 h
      obtain ⟨-, -, h⟩ := bind_ok_iff.1 h
      cases h
    | render =>
      obtain ⟨selection, -, h⟩ := bind_ok_iff.1 h
      obtain ⟨path, -, h⟩ := bind_ok_iff.1 h
      obtain ⟨-, -, h⟩ := bind_ok_iff.1 h
      cases h

/-- What is asked of `init` does not hang on the files. -/
theorem request?_eq_init {c : Call} (h : c.request? t = some (.init r)) (t' : FileTree) :
    c.request? t' = some (.init r) := by
  unfold Call.request? at h ⊢
  split at h
  next verbose command args horder =>
    cases command_of_readRequest (toOption_eq_some_iff.1 h)
    exact h
  next => cases h

theorem run_eq_init {c : Call} (hr : c.request? t = some (.init r)) (hs : (c.run t).exit = 0) :
    c.logger? ≠ none ∧ (∃ out, (init (c.surroundings t) r).2.outcome = .ok out) ∧
      (c.run t).tree = (init (c.surroundings t) r).1 := by
  rcases run_of_request hr with ⟨-, hexit, -⟩ | ⟨l, hl, hrun⟩
  · rw [hexit] at hs
    cases hs
  · rw [hrun] at hs ⊢
    exact ⟨by simp [hl], exit_outcomeOf.1 hs, tree_outcomeOf _ _ _ _⟩

theorem run_of_init {c : Call} {out : String} (hr : c.request? t = some (.init r))
    (hl : c.logger? ≠ none) (h : (init (c.surroundings t) r).2.outcome = .ok out) :
    (c.run t).exit = 0 ∧ (c.run t).tree = (init (c.surroundings t) r).1 := by
  rcases run_of_request hr with ⟨hnone, -⟩ | ⟨l, -, hrun⟩
  · exact absurd hnone hl
  · rw [hrun]
    exact ⟨exit_outcomeOf.2 ⟨out, h⟩, tree_outcomeOf _ _ _ _⟩

/-- **Initializing disturbs nothing that it looks at.** A call that initializes a project and
succeeds leaves a directory that is not empty. If it found one that was not empty, it leaves the
fingerprint as it was, and the same call once more succeeds and leaves every file as it is. At
another time the call writes the documents of that time, if it succeeds, and nothing else. -/
theorem init_again {c : Call} {t : FileTree} {r : InitRequest}
    (hr : c.request? t = some (.init r)) (hs : (c.run t).exit = 0) :
    (c.run t).tree.isEmptyDirectory r.directory = .ok false ∧
      (t.isEmptyDirectory r.directory = .ok false →
        Detection.resolve (c.snapshot (c.run t).tree) r.directory r.language =
            Detection.resolve (c.snapshot t) r.directory r.language ∧
          (c.run (c.run t).tree).exit = 0 ∧ (c.run (c.run t).tree).tree = (c.run t).tree ∧
          ∀ now clock, ((c.later now clock).run (c.run t).tree).exit = 0 → ∃ d pol docs,
            (Detection.resolve (c.snapshot t) r.directory r.language).outcome = .ok d ∧
              policy c.environment = .ok pol ∧ documents r.project d now pol = .ok docs ∧
              ((c.later now clock).run (c.run t).tree).tree =
                (writeFiles (c.run t).tree r.directory (documentFiles docs)).1) := by
  obtain ⟨hl, ⟨out, hout⟩, htree⟩ := run_eq_init hr hs
  rw [htree]
  refine ⟨isEmptyDirectory_init hout, fun hempty => ?_⟩
  obtain ⟨d, pol, docs, hsettled, hdocs, hheld⟩ :=
    settled_init (w := c.surroundings t) hempty hout
  generalize (init (c.surroundings t) r).1 = t' at hsettled hheld ⊢
  have hr' : c.request? t' = some (.init r) := request?_eq_init hr t'
  obtain ⟨hstill, out', hout'⟩ := hsettled.init_eq_self hdocs hheld
  obtain ⟨hexit, htree'⟩ := run_of_init hr' hl hout'
  refine ⟨hsettled.resolve, hexit, htree'.trans hstill, fun now clock hexit' => ?_⟩
  obtain ⟨-, ⟨out'', hout''⟩, htree''⟩ := run_eq_init (c := c.later now clock) hr' hexit'
  obtain ⟨docs', hdocs', hwritten⟩ := hsettled.tree_init now clock hout''
  exact ⟨d, pol, docs', hsettled.detection, hsettled.policy, hdocs', htree''.trans hwritten⟩

/-- A project with a program and a description of its own, away from the current directory. -/
def startedTree : FileTree where
  entries := Table.ofList [
    (["srv"], .directory),
    (["srv", "demo"], .directory),
    (["srv", "demo", "index.js"], .file []),
    (["srv", "demo", "README.md"], .file "mine".toUTF8.toList)]
  current := ["home", "user"]

/-- The call that initializes that project, whose path is given from the root. -/
def startedCall : Call where
  args := ["init", "demo", "--output", "/srv"]

/-- Run twice in a project that has begun, the program writes files the first time only. -/
theorem init_again_started :
    (startedCall.run startedTree).exit = 0 ∧
      (startedCall.run startedTree).tree.entries.size = 8 ∧
      (startedCall.run (startedCall.run startedTree).tree).exit = 0 ∧
      (startedCall.run (startedCall.run startedTree).tree).tree =
        (startedCall.run startedTree).tree := by
  have hr : startedCall.request? startedTree =
      some (.init { project := "demo", output := "/srv" }) := by
    decide +kernel
  have hs : (startedCall.run startedTree).exit = 0 := by decide +kernel
  have hempty : startedTree.isEmptyDirectory (Path.ofString "/srv" / "demo") = .ok false := by
    decide +kernel
  have hsize : (startedCall.run startedTree).tree.entries.size = 8 := by decide +kernel
  obtain ⟨-, hagain⟩ := init_again hr hs
  obtain ⟨-, hexit, htree, -⟩ := hagain hempty
  exact ⟨hs, hsize, hexit, htree⟩

end Fingerprint.CommandLine
