/-
Scanning a project that was just started. In a directory that is empty once it
has been made, `init` writes its whole scaffold, and no other file stands beside
it (`IsNewProject`). If the project runs on Node, its manifest of packages is
then the only source that the detection finds, so a scan finds the starter
packages and the loader (`IsNewProject.resolve_eq`).
-/
import Fingerprint.Proofs.CommandLine.Success
import Fingerprint.Proofs.Detection.Provenance
import Fingerprint.Proofs.FileTree.Grounded
import Fingerprint.Proofs.Scaffold.StarterManifest

namespace Fingerprint.CommandLine

open FileTree Scaffold Detection

variable {t t' : FileTree} {dir : Path} {d : Location} {l : Language} {name : String}
  {w : Surroundings} {r : InitRequest} {p : Plan} {pol : RuntimePolicy}

/-! ## Calls keep a tree grounded -/

theorem grounded_carryOut (h : t.Grounded) (r : InitRequest) (p : Plan) :
    (carryOut t r p).1.Grounded := by
  have hfirst := grounded_writeFiles h r.directory p.manifests
  rcases tree_carryOut_cases t r p with hc | hc
  · rwa [hc]
  · rw [hc]
    exact grounded_writeFiles hfirst r.directory p.scaffold

theorem grounded_init (h : w.snapshot.tree.Grounded) (r : InitRequest) :
    (init w r).1.Grounded := by
  rcases tree_init_cases w r with hi | hi | ⟨-, pol, p, -, hi⟩
  · rwa [hi]
  · rw [hi]
    exact h.makePath r.directory
  · rw [hi]
    exact grounded_carryOut (h.makePath r.directory) r p

/-- **A call keeps the tree grounded**, so every tree is that calls make of an empty one. -/
theorem grounded_run (h : t.Grounded) (c : Call) : (c.run t).tree.Grounded := by
  rcases tree_run_cases c t with hrun | ⟨request, -, hrun⟩
  · rwa [hrun]
  · cases request with
    | init r =>
      rw [hrun]
      exact grounded_init h r
    | help | scan | render | validate =>
      have hsame : (c.run t).tree = t := hrun.trans (tree_perform _ nofun)
      rwa [hsame]

/-! ## Files in a directory that was empty -/

theorem pathExists_of_isBare (hbare : t.IsBare d) (hd : t.locate dir = .ok d) (hn : IsName name) :
    t.pathExists (dir / name) = false := by
  refine Bool.eq_false_iff.2 fun hthere => ?_
  obtain ⟨-, l, e, hl, he⟩ := pathExists_iff.1 hthere
  rw [eq_append_of_locate_join hn hd hl, hbare name] at he
  cases he

/-- A file under a name in a directory was there before or has been written. -/
theorem isFile_or_mem_of_changes {files : List (String × String)} (hdir : t.isDirectory dir = true)
    (hfiles : ∀ f ∈ files, IsName f.1) (hc : Changes (IsWritten t' dir files) t t')
    (hn : IsName name) (hf : t'.isFile (dir / name) = true) :
    t.isFile (dir / name) = true ∨ name ∈ files.map Prod.fst := by
  obtain ⟨hnul, l, bytes, hl, he⟩ := isFile_iff.1 hf
  rcases hc.entry l with hsame | ⟨-, e, -, -, f, hmem, hfl, -⟩
  · rw [hc.locate_join hdir hn] at hl
    exact .inl (isFile_iff.2 ⟨hnul, l, bytes, hl, hsame.symm.trans he⟩)
  · obtain ⟨-, d, hd, -⟩ := isDirectory_iff.1 hdir
    rw [← name_eq_of_locate_join (hfiles f hmem) hn (hc.locate hd) hfl hl]
    exact .inr (List.mem_map_of_mem hmem)

/-- Into an empty directory the whole scaffold is written. -/
theorem scaffold_planOf_of_isBare (hbare : t.IsBare d) (hd : t.locate r.directory = .ok d)
    (detection : Detection) (docs : Artifact.Documents) :
    (planOf t r true detection docs).scaffold =
      Scaffold.files r.project detection.language r.description r.author true := by
  refine List.filter_eq_self.2 fun f hf => ?_
  have hn : IsName f.1 := by
    rcases mem_files hf with hb | ⟨hb, -⟩ <;> exact isName_of_mem (by simp [hb])
  rw [pathExists_of_isBare hbare hd hn]
  rfl

theorem isFile_of_holds {files : List (String × String)} {content : String}
    (hdir : t.isDirectory dir = true) (hn : IsName name) (h : Holds t dir files)
    (hf : (name, content) ∈ files) : t.isFile (dir / name) = true := by
  obtain ⟨l, hl, hheld⟩ := h _ hf
  exact isFile_iff.2 ⟨hasNul_join_of_isDirectory hdir hn, l, _, hl, hheld⟩

/-- What is written is read as it is, if its lines end in line feeds. -/
theorem readLossy_of_holds {files : List (String × String)} {content : String}
    (hdir : t.isDirectory dir = true) (hn : IsName name) (h : Holds t dir files)
    (hf : (name, content) ∈ files) (hplain : '\r' ∉ content.toList) :
    (Snapshot.mk t [] false).readLossy (dir / name) = .ok content := by
  obtain ⟨l, hl, hheld⟩ := h _ hf
  have hread : t.read (dir / name) = .ok (Text.Utf8.encode content.toList) := by
    rw [FileTree.read, hasNul_join_of_isDirectory hdir hn, find_eq_ok.2 ⟨l, hl, hheld⟩]
    rfl
  have hbytes : (Snapshot.mk t [] false).readBytes (dir / name) = t.read (dir / name) := by
    rw [Snapshot.readBytes, List.contains_nil, if_neg Bool.false_ne_true]
  rw [Snapshot.readLossy, hbytes, hread]
  simp [Except.map, Text.Utf8.decodeLossy_encode, Text.unifyBreaks_of_not_mem hplain]

/-! ## What the detection finds -/

/-- The names of the files that a new Node project starts with. -/
def newNames (l : Language) : List String :=
  documentNames ++ [loaderFile l, "package.json", "README.md", ".gitignore"]

/-- Whether a directory holds a new Node project: its scaffold, and no file beside those that it
starts with. -/
structure IsNewProject (t : FileTree) (dir : Path) (l : Language) : Prop where
  node : l.isNode = true
  directory : t.isDirectory dir = true
  room : HasRoom dir
  scaffold : ∃ project description author,
    Holds t dir (Scaffold.files project l description author true)
  names : ∀ name, IsName name → t.isFile (dir / name) = true → name ∈ newNames l

/-- The fingerprint of a new Node project. -/
def newFingerprint (l : Language) (forced : String) : Detection where
  language := (forcedLanguage forced).getD .js
  entrypoint := loaderFile l
  guessed := false
  dependencies := Table.ofList [(.node, starterPackages)]

theorem mem_files_of_isNode (hl : l.isNode = true) (project description author : String) :
    ("package.json", packageText project description author l) ∈
        Scaffold.files project l description author true ∧
      (loaderFile l, loader l project) ∈ Scaffold.files project l description author true := by
  simp [Scaffold.files, starterManifest, hl, packageText]

theorem not_mem_packageText (project description author : String) (l : Language) :
    '\r' ∉ (packageText project description author l).toList := fun h =>
  absurd (Json.isWritten_pretty_newline isPlain_packageManifest _ h) (by decide)

namespace IsNewProject

theorem isFile_loader (h : IsNewProject t dir l) : t.isFile (dir / loaderFile l) = true := by
  obtain ⟨project, description, author, hholds⟩ := h.scaffold
  have hn : IsName (loaderFile l) := by cases l <;> decide
  exact isFile_of_holds h.directory hn hholds
    (mem_files_of_isNode h.node project description author).2

/-- No file stands where the detection would look for another source. -/
theorem isFile_eq_false (h : IsNewProject t dir l) (hn : IsName name)
    (hname : name ∉ newNames .js ++ newNames .ts) : t.isFile (dir / name) = false := by
  refine Bool.eq_false_iff.2 fun hf => hname ?_
  have hmem := h.names name hn hf
  have hnode := h.node
  cases l with
  | js => exact List.mem_append_left _ hmem
  | ts => exact List.mem_append_right _ hmem
  | python | rust | ruby | go | php | swift | unknown => cases hnode

theorem saying?_node (h : IsNewProject t dir l) :
    saying? ⟨t, [], false⟩ dir .node = some (starterHints l) := by
  have hbeside : t.checkFile (dir / Manifest.typeConfiguration) = .ok false := by
    obtain ⟨typed, htyped⟩ := checkFile_typeConfiguration h.directory h.room
    obtain ⟨-, -, hfile⟩ := bind_ok_iff.1 htyped
    rw [htyped, ← hfile, h.isFile_eq_false (by decide) (by decide)]
    rfl
  obtain ⟨project, description, author, hholds⟩ := h.scaffold
  have hmem := (mem_files_of_isNode h.node project description author).1
  have hn : IsName "package.json" := by decide
  have hread := readLossy_of_holds h.directory hn hholds hmem (not_mem_packageText _ _ _ _)
  refine saying?_eq_some.2 ⟨isFile_of_holds h.directory hn hholds hmem, .inr ⟨_, hread, ?_⟩⟩
  rw [read_packageManifest h.node hbeside]
  rfl

theorem isFile_manifest (h : IsNewProject t dir l) {e : Ecosystem} (he : e ≠ .node) :
    t.isFile (dir / e.manifestName) = false := by
  refine h.isFile_eq_false (isName_manifestName e) ?_
  cases e with
  | node => exact absurd rfl he
  | rust | python | ruby | go | php | swift => decide

theorem sayings_eq (h : IsNewProject t dir l) : sayings ⟨t, [], false⟩ dir = [starterHints l] := by
  rw [sayings, Ecosystem.all, List.filterMap_cons_some h.saying?_node]
  refine congrArg _ (List.filterMap_eq_nil_iff.2 fun e he => ?_)
  have hne : e ≠ .node := by
    rintro rfl
    exact absurd he (by decide)
  rw [saying?, h.isFile_manifest hne]
  rfl

theorem readable (h : IsNewProject t dir l) : Readable ⟨t, [], false⟩ dir where
  directory := checkDirectory_of_isDirectory h.directory rfl
  discover := (discover_isOk_iff h.directory).2 h.room
  sayings := fun e hf => by
    by_cases he : e = .node
    · rw [he, h.saying?_node]
      rfl
    · exact absurd (hf.symm.trans (h.isFile_manifest he)) (by decide)

theorem adoptAll_starterHints (l : Language) (forced : Option Language) :
    (Resolution.mk forced "" false ∅).adoptAll [starterHints l] =
      ⟨forced <|> some .js, loaderFile l, false, Table.ofList [(.node, starterPackages)]⟩ := by
  have hnamed : (loaderFile l).isEmpty = false := by cases l <;> rfl
  have hpackages : (∅ : Versions).update starterPackages = starterPackages := Table.empty_update _
  have hstep : (Resolution.mk forced "" false ∅).adoptAll [starterHints l] =
      (Resolution.mk (forced <|> some .js) "" false
        ((∅ : Dependencies).put .node ((∅ : Versions).update starterPackages))).withEntrypoint
          (loaderFile l) false := rfl
  rw [hstep, Resolution.withEntrypoint, hnamed, hpackages]
  rfl

/-- **A scan of a new Node project finds the starter packages and the loader.** -/
theorem resolve_eq (h : IsNewProject t dir l) (forced : String) :
    (resolve ⟨t, [], false⟩ dir forced).outcome = .ok (newFingerprint l forced) := by
  have hsecrets : needsSecrets t dir (Table.ofList [(.node, starterPackages)]) = false := by
    rw [needsSecrets, h.isFile_eq_false (by decide) (by decide)]
    decide
  have hnamed : (loaderFile l).isEmpty = false := by cases l <;> rfl
  have hlanguage : ∀ (known : Option Language) other,
      (known <|> some Language.js).getD other = known.getD .js := by
    intro known other
    cases known <;> rfl
  refine resolve_eq_ok.2 ⟨h.readable, ?_⟩
  rw [known, h.sayings_eq, adoptAll_starterHints, takeOffers_of_known hnamed, conclude]
  simp only [hnamed, hsecrets, hlanguage, newFingerprint, Bool.false_eq_true, if_false]

end IsNewProject

/-! ## Starting a project -/

/-- Where a plan for an empty directory has been carried out, there is a new project. -/
theorem isNewProject_carryOut {out : String} (hempty : t.isEmptyDirectory r.directory = .ok true)
    (hp : (plan w t r pol).outcome = .ok p) (h : (carryOut t r p).2.outcome = .ok out)
    (hnode : p.detection.language.isNode = true) :
    IsNewProject (carryOut t r p).1 r.directory p.detection.language := by
  have hdir := isDirectory_of_isEmptyDirectory hempty
  obtain ⟨-, d, hd, -⟩ := isDirectory_iff.1 hdir
  have hbare := isBare_of_isEmptyDirectory hempty hd
  have hn := isName_of_mem_plan hp
  have hc := changes_carryOut hdir hn
  have hholds := (List.forall_mem_append.1 (holds_carryOut hdir hp h)).2
  have hroom := (discover_isOk_iff hdir).1 (resolve_eq_ok.1 (sources_of_plan hp).1).1.discover
  have hscaffold : p.scaffold =
      Scaffold.files r.project p.detection.language r.description r.author true := by
    obtain ⟨wasEmpty, detection, docs, hwas, -, -, rfl⟩ := plan_eq_ok.1 hp
    cases hempty.symm.trans hwas
    exact scaffold_planOf_of_isBare hbare hd detection docs
  have hnames : (p.manifests ++ p.scaffold).map Prod.fst = newNames p.detection.language := by
    rw [List.map_append, map_fst_manifests, hscaffold]
    simp [Scaffold.files, starterManifest, hnode, newNames]
  exact {
    node := hnode
    directory := hc.isDirectory hdir
    room := hroom
    scaffold := ⟨r.project, r.description, r.author, hscaffold ▸ hholds⟩
    names := fun name hname hf => by
      have hbefore := isFile_eq_false_of_pathExists (pathExists_of_isBare hbare hd hname)
      rw [← hnames]
      exact (isFile_or_mem_of_changes hdir hn hc hname hf).resolve_left (by simp [hbefore]) }

/-- Whether a project directory is empty once it has been made. -/
def MadeEmpty (t : FileTree) (dir : Path) : Prop :=
  (t.makePath dir).1.isEmptyDirectory dir = .ok true

instance (t : FileTree) (dir : Path) : Decidable (MadeEmpty t dir) :=
  inferInstanceAs (Decidable (_ = _))

/-- Whether a directory is there and empty, or missing at the end of a path that goes down only
from one of its directories that is there. -/
def IsEmptyOrAbsent (t : FileTree) (dir : Path) : Prop :=
  t.isEmptyDirectory dir = .ok true ∨ t.pathExists dir = false ∧
    ∃ n, t.isDirectory (dir.upTo n) = true ∧ ".." ∉ dir.parts.drop n

theorem madeEmpty_of_isEmptyOrAbsent (ht : t.Grounded) (hmade : (t.makePath dir).2 = .ok ())
    (h : IsEmptyOrAbsent t dir) : MadeEmpty t dir := by
  rcases h with hempty | ⟨habsent, n, hdir, hdown⟩
  · rw [MadeEmpty, makePath_of_isDirectory (isDirectory_of_isEmptyDirectory hempty)]
    exact hempty
  · exact isEmptyDirectory_makePath_of_absent ht hmade habsent hdir hdown

theorem readable_of_isEmptyDirectory {s : Snapshot} (hopen : s.denied = false)
    (hempty : s.tree.isEmptyDirectory dir = .ok true) (hroom : HasRoom dir) : Readable s dir := by
  have hdir := isDirectory_of_isEmptyDirectory hempty
  obtain ⟨-, d, hd, -⟩ := isDirectory_iff.1 hdir
  have hbare := isBare_of_isEmptyDirectory hempty hd
  refine ⟨checkDirectory_of_isDirectory hdir hopen, (discover_isOk_iff hdir).2 hroom,
    fun e hf => ?_⟩
  have hnone := pathExists_of_isBare hbare hd (isName_manifestName e)
  rw [isFile_eq_false_of_pathExists hnone] at hf
  cases hf

/-- **A project can be started in every directory that is empty once it has been made**, if its
path leaves room. -/
theorem canStart_of_madeEmpty (hmade : (w.snapshot.tree.makePath r.directory).2 = .ok ())
    (hempty : MadeEmpty w.snapshot.tree r.directory) (hopen : w.snapshot.denied = false)
    (hroom : HasRoom r.directory) (hsettings : ∃ pol, policy w.environment = .ok pol)
    (htime : w.now.timestamp?.isSome = true) : CanStart w r := by
  have hdir := isDirectory_of_isEmptyDirectory hempty
  obtain ⟨-, d, hd, -⟩ := isDirectory_iff.1 hdir
  have hbare := isBare_of_isEmptyDirectory hempty hd
  refine ⟨hmade, hsettings, readable_of_isEmptyDirectory hopen hempty hroom, htime,
    fun name hname => isDirectory_eq_false_of_pathExists ?_⟩
  exact pathExists_of_isBare hbare hd (isName_of_mem (by simp [hname]))

theorem language_of_resolve {s : Snapshot} {d : Detection} {forced : String}
    (h : (resolve s dir forced).outcome = .ok d) (hl : forcedLanguage forced = some l) :
    d.language = l := by
  obtain ⟨-, rfl⟩ := resolve_eq_ok.1 h
  rw [language_conclude, language_known, hl]
  rfl

/-- A call that starts a project and succeeds has detected what is there. -/
theorem exists_detection {c : Call} (hr : c.request? t = some (.init r)) (hs : (c.run t).exit = 0) :
    ∃ d, (resolve (c.snapshot (t.makePath r.directory).1) r.directory r.language).outcome =
      .ok d := by
  obtain ⟨-, ⟨out, hout⟩, -⟩ := run_eq_init hr hs
  obtain ⟨-, pol, p, -, hp, -⟩ := init_eq_ok.1 hout
  exact ⟨p.detection, (sources_of_plan hp).1⟩

/-- **A call that starts a Node project in an empty directory leaves a new project.** -/
theorem isNewProject_run {c : Call} (hr : c.request? t = some (.init r)) (hs : (c.run t).exit = 0)
    (hempty : MadeEmpty t r.directory ∨ t.Grounded ∧ IsEmptyOrAbsent t r.directory) :
    ∃ d, (resolve (c.snapshot (t.makePath r.directory).1) r.directory r.language).outcome = .ok d ∧
      (d.language.isNode = true → IsNewProject (c.run t).tree r.directory d.language) := by
  obtain ⟨-, ⟨out, hout⟩, htree⟩ := run_eq_init hr hs
  obtain ⟨hmade, pol, p, hpol, hp, hdone⟩ := init_eq_ok.1 hout
  have hmadeEmpty : MadeEmpty t r.directory := hempty.elim id fun h =>
    madeEmpty_of_isEmptyOrAbsent h.1 hmade h.2
  refine ⟨p.detection, (sources_of_plan hp).1, fun hnode => ?_⟩
  rw [htree, tree_init hpol hmade hp]
  exact isNewProject_carryOut hmadeEmpty hp hdone hnode

/-- **A scaffolded Node project is recognised.** Whatever a project, its description and its author
are called, the manifest of packages in the scaffold declares the starter packages and names the
loader of the same scaffold, which is no guess. So after a call has started a Node project in a
directory that was empty once it had been made, a scan finds these packages and this loader, which
is there, whatever language is forced on it. The directory is empty once it has been made if it was
empty before, or was missing at the end of a path that goes down only from where something was. -/
theorem newProject_recognised :
    (∀ project description author l, l.isNode = true →
      Entries.get? "package.json" (Scaffold.files project l description author true) =
        some (packageText project description author l) ∧
      Entries.get? (loaderFile l) (Scaffold.files project l description author true) =
        some (loader l project) ∧
      ∀ beside, beside Manifest.typeConfiguration = .ok false →
        Manifest.read .node beside (packageText project description author l) =
          pure (starterHints l)) ∧
    ∀ (c : Call) (t : FileTree) (r : InitRequest), c.request? t = some (.init r) →
      (c.run t).exit = 0 →
      MadeEmpty t r.directory ∨ t.Grounded ∧ IsEmptyOrAbsent t r.directory →
      ∃ d, (resolve (c.snapshot (t.makePath r.directory).1) r.directory r.language).outcome =
          .ok d ∧
        (d.language.isNode = true →
          (c.run t).tree.isFile (r.directory / loaderFile d.language) = true ∧
          ∀ forced, (resolve ⟨(c.run t).tree, [], false⟩ r.directory forced).outcome =
            .ok (newFingerprint d.language forced)) := by
  refine ⟨fun project description author l hl => ⟨?_, ?_, fun beside => read_packageManifest hl⟩,
    fun c t r hr hs hempty => ?_⟩
  · cases l with
    | js | ts => rfl
    | python | rust | ruby | go | php | swift | unknown => cases hl
  · rw [Scaffold.files, Entries.get?, if_pos rfl]
  · obtain ⟨d, hd, hproject⟩ := isNewProject_run hr hs hempty
    exact ⟨d, hd, fun hnode => ⟨(hproject hnode).isFile_loader, (hproject hnode).resolve_eq⟩⟩

/-- A call that starts a project away from the current directory, whose description needs
escapes. -/
def demoCall : Call where
  args := ["init", "demo", "--language", "ts", "--description", "\"A\\B\" 🎉",
    "--output", "/srv/projects"]

/-- What that call asks for. -/
def demoRequest : InitRequest where
  project := "demo"
  language := "ts"
  description := "\"A\\B\" 🎉"
  output := "/srv/projects"

/-- The manifest of that project is understood, and in an empty tree the call leaves a project that
is recognised. -/
theorem newProject_recognised_demo :
    Manifest.read .node (fun _ => .ok false)
        (packageText demoRequest.project demoRequest.description demoRequest.author .ts) =
      pure (starterHints .ts) ∧
    (demoCall.run (.empty "work")).exit = 0 ∧
      (demoCall.run (.empty "work")).tree.isFile (demoRequest.directory / "loader.ts") = true ∧
      (resolve ⟨(demoCall.run (.empty "work")).tree, [], false⟩ demoRequest.directory "").outcome =
        .ok {
          language := .js
          entrypoint := "loader.ts"
          guessed := false
          dependencies := Table.ofList [(.node, starterPackages)] } := by
  have hr : demoCall.request? (.empty "work") = some (.init demoRequest) := by decide +kernel
  have hmade : ((empty "work").makePath demoRequest.directory).2 = .ok () := by decide +kernel
  have hempty : IsEmptyOrAbsent (.empty "work") demoRequest.directory :=
    .inr ⟨by decide +kernel, 0, by decide +kernel, by decide +kernel⟩
  have hroom : HasRoom demoRequest.directory := by
    intro e
    cases e <;> decide +kernel
  have hsettings : ∃ pol, policy (demoCall.surroundings (.empty "work")).environment = .ok pol :=
    ⟨_, rfl⟩
  have hs : (demoCall.run (.empty "work")).exit = 0 :=
    (exit_eq_zero_iff hr).2 ⟨by decide +kernel, canStart_of_madeEmpty hmade
      (madeEmpty_of_isEmptyOrAbsent (grounded_empty "work") hmade hempty) rfl hroom hsettings
      (by decide +kernel)⟩
  obtain ⟨d, hd, hproject⟩ :=
    newProject_recognised.2 demoCall (.empty "work") _ hr hs (.inr ⟨grounded_empty "work", hempty⟩)
  rw [language_of_resolve hd (l := .ts) (by decide +kernel)] at hproject
  obtain ⟨hloader, hscan⟩ := hproject rfl
  have hread := (newProject_recognised.1 demoRequest.project demoRequest.description
    demoRequest.author .ts rfl).2.2 (fun _ => .ok false) rfl
  exact ⟨hread, hs, hloader, hscan ""⟩

/-! ## Starting a project beside other files -/

/-- In a directory that is not empty no manifest of packages is written. -/
theorem isFile_starter_of_not_empty {c : Call} (hr : c.request? t = some (.init r))
    (hs : (c.run t).exit = 0)
    (hother : (t.makePath r.directory).1.isEmptyDirectory r.directory = .ok false)
    (hname : name ∈ starterNames)
    (hnone : (t.makePath r.directory).1.isFile (r.directory / name) = false) :
    (c.run t).tree.isFile (r.directory / name) = false := by
  obtain ⟨-, ⟨out, hout⟩, htree⟩ := run_eq_init hr hs
  obtain ⟨hmade, pol, p, hpol, hp, -⟩ := init_eq_ok.1 hout
  have hdir := isDirectory_of_makePath hmade
  have hn := isName_of_mem_plan hp
  have hapart : ∀ name ∈ starterNames, name ∉ documentNames ∧ name ∉ bootstrapNames := by decide
  rw [htree, tree_init hpol hmade hp]
  refine Bool.eq_false_iff.2 fun hf => ?_
  rcases isFile_or_mem_of_changes hdir hn (changes_carryOut hdir hn)
    (isName_of_mem (by simp [hname])) hf with hbefore | hmem
  · cases hbefore.symm.trans hnone
  · rw [List.map_append, map_fst_manifests, List.mem_append] at hmem
    rcases hmem with hm | hm
    · exact (hapart name hname).1 hm
    · obtain ⟨f, hfile, rfl⟩ := List.mem_map.1 hm
      rcases (mem_scaffold hp hfile).2 with hb | ⟨-, hempty⟩
      · exact (hapart _ hname).2 hb
      · cases hempty.symm.trans hother

/-- Where no manifest of packages is, a scan finds no new project. -/
theorem resolve_ne_newFingerprint (h : t.isFile (dir / "package.json") = false) (forced : String) :
    (resolve ⟨t, [], false⟩ dir forced).outcome ≠ .ok (newFingerprint l forced) := by
  intro hscan
  have hnode := get?_dependencies hscan .node
  have hsilent : saying? ⟨t, [], false⟩ dir .node = none := by
    rw [saying?_eq, show Ecosystem.node.manifestName = "package.json" from rfl, h]
    rfl
  rw [hsilent] at hnode
  cases hnode

/-- A directory with a file in it, as the current one. -/
def notesTree : FileTree := (empty "work").put ["work", "notes.txt"] (.file [])

/-- A call whose project directory is missing at the end of a path that goes up again: made, the
path leads back to the current directory. -/
def roundaboutCall : Call where
  args := ["init", "x/..", "--language", "js"]

/-- What that call asks for. -/
def roundaboutRequest : InitRequest where
  project := "x/.."
  language := "js"

theorem canStart_roundabout :
    CanStart (roundaboutCall.surroundings notesTree) roundaboutRequest := by
  have hmade : (notesTree.makePath roundaboutRequest.directory).2 = .ok () := by decide +kernel
  have hdir := isDirectory_of_makePath hmade
  have hroom : HasRoom roundaboutRequest.directory := by
    intro e
    cases e <;> decide +kernel
  have hmanifests : ∀ e : Ecosystem, (notesTree.makePath roundaboutRequest.directory).1.isFile
      (roundaboutRequest.directory / e.manifestName) = false := by
    intro e
    cases e <;> decide +kernel
  exact {
    made := hmade
    settings := ⟨_, rfl⟩
    readable := {
      directory := checkDirectory_of_isDirectory hdir rfl
      discover := (discover_isOk_iff hdir).2 hroom
      sayings := fun e hf => absurd (hf.symm.trans (hmanifests e)) (by decide) }
    time := by decide +kernel
    documents := by decide +kernel }

/-- A missing path is not enough: where it goes up from a directory that is missing itself, the
project may get a directory that is not empty, and then no manifest of packages. -/
theorem newProject_overlooked :
    ¬ ∀ (c : Call) (t : FileTree) (r : InitRequest) (d : Detection), t.Grounded →
      c.request? t = some (.init r) → (c.run t).exit = 0 →
      (t.pathExists r.directory = false ∨ t.isEmptyDirectory r.directory = .ok true) →
      (resolve (c.snapshot (t.makePath r.directory).1) r.directory r.language).outcome = .ok d →
      d.language.isNode = true →
      (resolve ⟨(c.run t).tree, [], false⟩ r.directory "").outcome =
        .ok (newFingerprint d.language "") := by
  intro h
  have hgrounded : notesTree.Grounded :=
    (grounded_empty "work").put (p := Path.ofString "notes.txt") (by decide +kernel)
      (by decide +kernel) _
  have hr : roundaboutCall.request? notesTree = some (.init roundaboutRequest) := by decide +kernel
  have hs : (roundaboutCall.run notesTree).exit = 0 :=
    (exit_eq_zero_iff hr).2 ⟨by decide +kernel, canStart_roundabout⟩
  obtain ⟨d, hd⟩ := exists_detection hr hs
  have hnode : d.language.isNode = true := by
    rw [language_of_resolve hd (l := .js) (by decide +kernel)]
    rfl
  have hstarter : "package.json" ∈ starterNames := by decide
  have hnone := isFile_starter_of_not_empty hr hs (by decide +kernel) hstarter (by decide +kernel)
  exact resolve_ne_newFingerprint hnone ""
    (h roundaboutCall notesTree _ d hgrounded hr hs (.inl (by decide +kernel)) hd hnode)

end Fingerprint.CommandLine
