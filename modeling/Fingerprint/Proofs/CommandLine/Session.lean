/-
Sessions: calls of the program one after another on one file tree. A call that
initializes a project may make the directories on its path, write the two
documents in its directory and add files of the scaffold where nothing stood
(`Initializes`); every other call leaves the tree as it is. So whatever the
calls and wherever they stop, nothing that was there is lost
(`calls_keep_files`).
-/
import Fingerprint.CommandLine.Run
import Fingerprint.Proofs.CommandLine.Initialization

namespace Fingerprint.CommandLine

open FileTree Scaffold

/-- One call of the program: its arguments, and what it finds besides the files. -/
structure Call where
  args : List String
  environment : Environment := []
  unreadable : List String := []
  denied : Bool := false
  now : Calendar.Moment := .ofEpoch 0
  clock : Log.Clock := fun _ => ""

namespace Call

/-- A file tree as a call sees it. -/
def snapshot (c : Call) (t : FileTree) : Snapshot := ⟨t, c.unreadable, c.denied⟩

/-- What a call works with on a file tree. -/
def surroundings (c : Call) (t : FileTree) : Surroundings :=
  ⟨c.snapshot t, c.environment, c.now, c.clock⟩

/-- What a call leaves behind. -/
def run (c : Call) (t : FileTree) : Outcome := CommandLine.run (c.surroundings t) c.args

/-- The same call at another time. -/
def later (c : Call) (now : Calendar.Moment) (clock : Log.Clock) : Call := { c with now, clock }

/-- What the arguments of a call ask a command to do, if they are taken. -/
def request? (c : Call) (t : FileTree) : Option Request :=
  match readOrder c.args with
  | .ok (.run _ command args) => (readRequest (c.snapshot t) command args).toOption
  | _ => none

/-- The logger of a call, if its arguments ask for a command and the logger can be set up. -/
def logger? (c : Call) : Option Log.Logger :=
  match readOrder c.args with
  | .ok (.run verbose _ _) =>
    match Log.Logger.setUp {} (if verbose then some "DEBUG" else none) c.environment with
    | (l, .ok ()) => some l
    | (_, .error _) => none
  | _ => none

end Call

/-- The file tree after several calls. -/
def runAll (t : FileTree) (calls : List Call) : FileTree :=
  calls.foldl (fun t c => (c.run t).tree) t

variable {t t' made : FileTree} {dir : Path} {w : Surroundings} {r : InitRequest}

@[simp] theorem tree_outcomeOf (l : Log.Logger) (clock : Log.Clock) (t : FileTree)
    (done : Traced Stop String) : (outcomeOf l clock t done).tree = t := by
  unfold outcomeOf
  simp only
  split <;> rfl

@[simp] theorem tree_rejected (t : FileTree) (why : Rejection) : (rejected t why).tree = t := by
  cases why <;> rfl

/-- What a call whose arguments are taken comes to: its logger cannot be set up, or its command
runs. -/
theorem run_of_request {c : Call} {request : Request} (h : c.request? t = some request) :
    (c.logger? = none ∧ (c.run t).exit = 1 ∧ (c.run t).tree = t) ∨
      ∃ l, c.logger? = some l ∧ c.run t = outcomeOf l c.clock (perform (c.surroundings t) request).1
        (perform (c.surroundings t) request).2 := by
  unfold Call.request? at h
  split at h
  next verbose command args horder =>
    have hread : readRequest (c.surroundings t).snapshot command args = .ok request :=
      toOption_eq_some_iff.1 h
    have hargs : c.args.isEmpty = false := by
      cases hc : c.args with
      | nil => rw [hc] at horder; cases horder
      | cons => rfl
    have henvironment : (c.surroundings t).environment = c.environment := rfl
    simp only [Call.run, run, hargs, horder, Call.logger?, henvironment, Bool.false_eq_true,
      if_false]
    rcases Log.Logger.setUp {} (if verbose then some "DEBUG" else none) c.environment with
      ⟨l, e | _⟩
    · exact .inl ⟨rfl, rfl, rfl⟩
    · refine .inr ⟨l, rfl, ?_⟩
      simp only [runCommand, hread]
      rfl
  next => cases h

theorem tree_run_of_no_request {c : Call} (h : c.request? t = none) : (c.run t).tree = t := by
  unfold Call.run run
  simp only
  split
  · rfl
  · split
    next => exact tree_rejected _ _
    next => rfl
    next => rfl
    next verbose command args horder =>
      split
      next => rfl
      next =>
        rw [runCommand]
        cases hread : readRequest (c.surroundings t).snapshot command args with
        | error why => exact tree_rejected _ _
        | ok request =>
          have hread' : readRequest (c.snapshot t) command args = .ok request := hread
          simp [Call.request?, horder, hread', Except.toOption] at h

/-- A call does to the tree what the command does that it asks for, unless it stops before. -/
theorem tree_run_cases (c : Call) (t : FileTree) : (c.run t).tree = t ∨
    ∃ request, c.request? t = some request ∧
      (c.run t).tree = (perform (c.surroundings t) request).1 := by
  cases h : c.request? t with
  | none => exact .inl (tree_run_of_no_request h)
  | some request =>
    rcases run_of_request h with ⟨-, -, htree⟩ | ⟨l, -, hrun⟩
    · exact .inl htree
    · exact .inr ⟨request, rfl, by rw [hrun, tree_outcomeOf]⟩

theorem tree_perform (w : Surroundings) {request : Request} (h : ∀ r, request ≠ .init r) :
    (perform w request).1 = w.snapshot.tree := by
  cases request with
  | init r => exact absurd rfl (h r)
  | help | scan | render | validate => rfl

/-- What initializing the project in a directory may do to a file tree. -/
structure Initializes (dir : Path) (t t' : FileTree) : Prop where
  /-- No directory is lost. -/
  directory : ∀ l, t.at? l = some .directory → t'.at? l = some .directory
  /-- No file is lost, and only the two documents may get another content. -/
  file : ∀ l bytes, t.at? l = some (.file bytes) → t'.at? l = some (.file bytes) ∨
    ∃ d name bytes', t'.locate dir = .ok d ∧ l = d ++ [name] ∧ name ∈ documentNames ∧
      t'.at? l = some (.file bytes')
  /-- A new file stands in the directory under one of the names of a new project; it is a manifest
  of packages only if the directory held nothing. -/
  newFile : ∀ l bytes, t.at? l = none → t'.at? l = some (.file bytes) →
    ∃ d name, t'.locate dir = .ok d ∧ l = d ++ [name] ∧
      (name ∈ documentNames ++ bootstrapNames ∨ name ∈ starterNames ∧ t.IsBare d)
  /-- A new directory is a beginning of the path. -/
  newDirectory : ∀ l, t.at? l = none → t'.at? l = some .directory →
    ∃ n, t'.locate (dir.upTo n) = .ok l

/-- What initializing a project may write: directories on its path, and files in its directory,
those that are no documents only where nothing was. -/
def MayWrite (dir : Path) (t t' : FileTree) (l : Location) (e : Entry) : Prop :=
  IsOnPath t' dir l e ∨
    ∃ d name bytes, t'.locate dir = .ok d ∧ l = d ++ [name] ∧ e = .file bytes ∧
      (name ∈ documentNames ∨
        t.at? l = none ∧ (name ∈ bootstrapNames ∨ name ∈ starterNames ∧ t.IsBare d))

theorem initializes_of_changes (h : Changes (MayWrite dir t t') t t') : Initializes dir t t' where
  directory := fun l hl => h.directory hl
  file := by
    intro l bytes hl
    rcases h.entry l with hsame | ⟨-, e, he, hnew, hwrite⟩
    · exact .inl (hsame.trans hl)
    · rcases hwrite with ⟨rfl, -⟩ | ⟨d, name, bytes', hd, hname, rfl, hdoc | ⟨hnone, -⟩⟩
      · rw [hnew rfl] at hl
        cases hl
      · exact .inr ⟨d, name, bytes', hd, hname, hdoc, he⟩
      · rw [hnone] at hl
        cases hl
  newFile := by
    intro l bytes hl hl'
    rcases h.entry l with hsame | ⟨-, e, he, -, hwrite⟩
    · rw [hsame, hl] at hl'
      cases hl'
    · rcases hwrite with ⟨rfl, -⟩ | ⟨d, name, bytes', hd, hname, -, hdoc | ⟨-, hplace⟩⟩
      · rw [he] at hl'
        cases hl'
      · exact ⟨d, name, hd, hname, .inl (List.mem_append_left _ hdoc)⟩
      · exact ⟨d, name, hd, hname, hplace.imp (List.mem_append_right _) id⟩
  newDirectory := by
    intro l hl hl'
    rcases h.entry l with hsame | ⟨-, e, he, -, hwrite⟩
    · rw [hsame, hl] at hl'
      cases hl'
    · rcases hwrite with ⟨-, hpath⟩ | ⟨d, name, bytes', -, -, rfl, -⟩
      · exact hpath
      · rw [he] at hl'
        cases hl'

theorem mayWrite_of_isWritten {pol : RuntimePolicy} {p : Plan} {l : Location} {e : Entry}
    (hmade : Changes (IsOnPath made dir) t made) (hdir : made.isDirectory r.directory = true)
    (hp : (plan w made r pol).outcome = .ok p) {P : Location → Entry → Prop}
    (hdone : Changes P made t') (he : t'.at? l = some e)
    (hw : IsWritten t' r.directory (p.manifests ++ p.scaffold) l e) :
    MayWrite r.directory t t' l e := by
  obtain ⟨f, hf, hl, rfl⟩ := hw
  obtain ⟨-, d, hd, -⟩ := isDirectory_iff.1 hdir
  rcases List.mem_append.1 hf with hm | hs
  · have hname : f.1 ∈ documentNames := map_fst_manifests p ▸ List.mem_map_of_mem hm
    have hn : IsName f.1 := isName_of_mem (by simp [hname])
    have hl' := eq_append_of_locate_join hn (hdone.locate hd) hl
    exact .inr ⟨d, f.1, _, hdone.locate hd, hl', rfl, .inl hname⟩
  · obtain ⟨hmissing, hplace⟩ := mem_scaffold hp hs
    have hn : IsName f.1 := by
      rcases hplace with hb | ⟨hb, -⟩ <;> exact isName_of_mem (by simp [hb])
    have hl' := eq_append_of_locate_join hn (hdone.locate hd) hl
    -- Nothing stood there when the directory was looked at, so nothing did before.
    have hnone : made.at? l = none :=
      at?_eq_none_of_pathExists hdir hn hmissing (hdone.locate_join hdir hn ▸ hl)
    refine .inr ⟨d, f.1, _, hdone.locate hd, hl', rfl, .inr ⟨hmade.none_of_none hnone, ?_⟩⟩
    exact hplace.imp id fun h =>
      ⟨h.1, hmade.isBare (isBare_of_isEmptyDirectory h.2 hd)⟩

theorem isName_of_mem_plan {pol : RuntimePolicy} {p : Plan}
    (hp : (plan w t r pol).outcome = .ok p) : ∀ f ∈ p.manifests ++ p.scaffold, IsName f.1 := by
  intro f hf
  rcases List.mem_append.1 hf with hm | hs
  · have hname : f.1 ∈ documentNames := map_fst_manifests p ▸ List.mem_map_of_mem hm
    exact isName_of_mem (by simp [hname])
  · rcases (mem_scaffold hp hs).2 with hb | ⟨hb, -⟩ <;> exact isName_of_mem (by simp [hb])

/-- **Initializing a project writes only what it may**, wherever it stops. -/
theorem changes_init (w : Surroundings) (r : InitRequest) :
    Changes (MayWrite r.directory w.snapshot.tree (init w r).1) w.snapshot.tree (init w r).1 := by
  have hmade := changes_makePath w.snapshot.tree r.directory
  rcases tree_init_cases w r with h | h | ⟨hok, pol, p, hp, h⟩
  · rw [h]
    exact .refl _ _
  · rw [h]
    exact hmade.mono fun l e => .inl
  · rw [h]
    have hdir := isDirectory_of_makePath hok
    have hdone := changes_carryOut hdir (isName_of_mem_plan hp)
    have hfirst := hmade.mono fun l e hpath =>
      (.inl (hdone.isOnPath hpath) : MayWrite r.directory w.snapshot.tree _ l e)
    refine hfirst.trans ⟨hdone.current, fun l => ?_⟩
    rcases hdone.entry l with hsame | ⟨hne, e, he, hnew, hw⟩
    · exact .inl hsame
    · exact .inr ⟨hne, e, he, hnew, mayWrite_of_isWritten hmade hdir hp hdone he hw⟩

/-- A call that asks for no initialization leaves the tree as it is, one that does may initialize
the project. -/
theorem changes_run (c : Call) (t : FileTree) :
    (c.run t).tree = t ∨ ∃ r, c.request? t = some (.init r) ∧
      Changes (MayWrite r.directory t (c.run t).tree) t (c.run t).tree := by
  rcases tree_run_cases c t with h | ⟨request, hrequest, h⟩
  · exact .inl h
  · cases request with
    | init r =>
      right
      refine ⟨r, hrequest, ?_⟩
      rw [h]
      exact changes_init (c.surroundings t) r
    | help | scan | render | validate => exact .inl (h.trans (tree_perform _ nofun))

theorem changes_runAll (t : FileTree) (calls : List Call) :
    Changes (fun _ _ => True) t (runAll t calls) := by
  induction calls generalizing t with
  | nil => exact .refl _ t
  | cons c calls ih =>
    have hstep : Changes (fun _ _ => True) t (c.run t).tree := by
      rcases changes_run c t with h | ⟨r, -, h⟩
      · rw [h]
        exact .refl _ t
      · exact h.mono fun _ _ _ => trivial
    exact hstep.trans (ih _)

/-- **No call clobbers anything.** After any session nothing that stood in the tree is gone or of
another kind. Whatever the session was and whatever the next call is, the tree is as it was unless
the call asks to initialize a project; then it may have changed as initializing that project may
change it. -/
theorem calls_keep_files (t : FileTree) (session : List Call) (c : Call) :
    (∀ l e, t.at? l = some e → ∃ e', (runAll t session).at? l = some e' ∧
      (e' = .directory ↔ e = .directory)) ∧
    match c.request? (runAll t session) with
    | some (.init r) => Initializes r.directory (runAll t session) (c.run (runAll t session)).tree
    | _ => (c.run (runAll t session)).tree = runAll t session := by
  constructor
  · intro l e hl
    have hkept := changes_runAll t session
    cases e with
    | directory => exact ⟨_, hkept.directory hl, Iff.rfl⟩
    | file bytes =>
      obtain ⟨bytes', hl'⟩ := hkept.file hl
      exact ⟨_, hl', by simp⟩
  · rcases tree_run_cases c (runAll t session) with h | ⟨request, hrequest, h⟩
    · split
      next r hr =>
        refine initializes_of_changes ?_
        rw [h]
        exact .refl _ _
      next => exact h
    · rw [hrequest]
      cases request with
      | init r =>
        refine initializes_of_changes ?_
        rw [h]
        exact changes_init (c.surroundings _) r
      | help | scan | render | validate => exact h.trans (tree_perform _ nofun)

end Fingerprint.CommandLine
