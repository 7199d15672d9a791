/-
Making directories. Whether it comes to an end or stops half way, making a
path makes directories only, and only at its own beginnings
(`changes_makePath`); where it comes to an end the path leads to a directory
(`isDirectory_of_makePath`), and where it led to one before, nothing is made
(`makePath_of_isDirectory`).
-/
import Fingerprint.Proofs.FileTree.Changes
import Fingerprint.Proofs.Path

namespace Fingerprint

namespace FileTree

variable {t t' : FileTree} {l : Location} {e : Entry} {p : Path}

theorem find_eq_ok : t.find p = .ok e ↔ ∃ l, t.locate p = .ok l ∧ t.at? l = some e := by
  unfold find
  cases t.locate p with
  | error why => simp [bind, Except.bind]
  | ok l => cases h : t.at? l <;> simp [bind, Except.bind, pure, Except.pure, h]

theorem isDirectory_iff : t.isDirectory p = true ↔
    p.hasNul = false ∧ ∃ l, t.locate p = .ok l ∧ t.at? l = some .directory := by
  rw [isDirectory, Bool.and_eq_true, Bool.not_eq_true', ← find_eq_ok]
  cases t.find p with
  | error why => simp
  | ok e => cases e <;> simp

theorem isFile_iff : t.isFile p = true ↔
    p.hasNul = false ∧ ∃ l bytes, t.locate p = .ok l ∧ t.at? l = some (.file bytes) := by
  rw [isFile, Bool.and_eq_true, Bool.not_eq_true', exists_comm]
  simp only [← find_eq_ok]
  cases t.find p with
  | error why => simp
  | ok e => cases e <;> simp

theorem checkFile_eq_ok {there : Bool} :
    t.checkFile p = .ok there ↔ t.requireShort p = .ok () ∧ t.isFile p = there := by
  unfold checkFile
  cases t.requireShort p with
  | error why => simp [bind, Except.bind]
  | ok u => simp [bind, Except.bind, pure, Except.pure]

theorem pathExists_iff : t.pathExists p = true ↔
    p.hasNul = false ∧ ∃ l e, t.locate p = .ok l ∧ t.at? l = some e := by
  rw [pathExists, Bool.and_eq_true, Bool.not_eq_true', exists_comm]
  simp only [← find_eq_ok]
  cases t.find p <;> simp [Except.isOk, Except.toBool]

theorem Changes.isDirectory {P : Location → Entry → Prop} (h : Changes P t t')
    (hp : t.isDirectory p = true) : t'.isDirectory p = true := by
  obtain ⟨hnul, l, hl, hd⟩ := isDirectory_iff.1 hp
  exact isDirectory_iff.2 ⟨hnul, l, h.locate hl, h.directory hd⟩

theorem Changes.pathExists {P : Location → Entry → Prop} (h : Changes P t t')
    (hp : t.pathExists p = true) : t'.pathExists p = true := by
  obtain ⟨hnul, l, e, hl, he⟩ := pathExists_iff.1 hp
  have hsome : t'.at? l ≠ none := fun hnone => by
    rw [h.none_of_none hnone] at he
    cases he
  obtain ⟨e', he'⟩ := Option.ne_none_iff_exists'.1 hsome
  exact pathExists_iff.2 ⟨hnul, l, e', h.locate hl, he'⟩

theorem hasNul_join_of_isDirectory {name : String} (hdir : t.isDirectory p = true)
    (hn : IsName name) : (p / name).hasNul = false := by
  rw [Path.hasNul_join_name p hn]
  exact (isDirectory_iff.1 hdir).1

/-- **A path into a directory is walked through it.** -/
theorem walk_join (t : FileTree) (p : Path) {q : String} (h : (Path.ofString q).anchor = "") :
    t.walk (t.start (p / q)) (p / q).parts =
      (t.walk (t.start p) p.parts).bind fun d => t.walk d (Path.ofString q).parts := by
  rw [Path.join_of_anchor p h, ← walk_append]
  rfl

theorem walk_join_name (t : FileTree) (p : Path) {name : String} (hn : IsName name) :
    t.walk (t.start (p / name)) (p / name).parts =
      (t.walk (t.start p) p.parts).bind fun d => t.walk d [name] := by
  rw [walk_join t p (by rw [hn.1]), hn.1]

theorem walk_join_of_directory {name : String} {d : Location} (hn : IsName name)
    (hwalk : t.walk (t.start p) p.parts = .ok d) (hd : t.at? d = some .directory) :
    t.walk (t.start (p / name)) (p / name).parts =
      if nameLimit < name.utf8ByteSize then .error .nameTooLong else .ok (d ++ [name]) := by
  rw [walk_join_name t p hn, hwalk]
  show t.walk d [name] = _
  rw [walk_of_directory hd, step_name d hn.2.1]
  rfl

theorem exists_of_walk_join {name : String} (hn : IsName name)
    (hwalk : t.walk (t.start (p / name)) (p / name).parts = .ok l) :
    ∃ d, t.walk (t.start p) p.parts = .ok d ∧ t.at? d = some .directory ∧ l = d ++ [name] := by
  rw [walk_join_name t p hn] at hwalk
  cases hdir : t.walk (t.start p) p.parts with
  | error why =>
    rw [hdir] at hwalk
    cases hwalk
  | ok d =>
    rw [hdir] at hwalk
    obtain ⟨hd, rfl⟩ := walk_singleton_eq_ok hwalk
    exact ⟨d, rfl, hd, step_name d hn.2.1⟩

/-- A name in a directory leads one step further, unless the path is too long. -/
theorem locate_join {name : String} {d : Location} (hl : t.locate p = .ok d)
    (hd : t.at? d = some .directory) (hn : IsName name) (hname : name.utf8ByteSize ≤ nameLimit) :
    t.locate (p / name) =
      if pathLimit < (p / name).toString.utf8ByteSize then .error .nameTooLong
      else .ok (d ++ [name]) := by
  obtain ⟨-, hwalk⟩ := locate_eq_ok.1 hl
  rw [locate, walk_join_of_directory hn hwalk hd, if_neg (Nat.not_lt.2 hname)]

theorem requireShort_join_eq {name : String} (hdir : t.isDirectory p = true) (hn : IsName name)
    (hname : name.utf8ByteSize ≤ nameLimit) :
    t.requireShort (p / name) =
      if (p / name).toString.utf8ByteSize ≤ pathLimit then .ok ()
      else .error (.refused .nameTooLong (p / name)) := by
  obtain ⟨-, d, hl, hd⟩ := isDirectory_iff.1 hdir
  simp only [requireShort, hasNul_join_of_isDirectory hdir hn, locate_join hl hd hn hname]
  by_cases hlong : pathLimit < (p / name).toString.utf8ByteSize
  · simp [hlong]
  · simp [hlong, Nat.le_of_not_lt hlong]

theorem requireShort_join {name : String} (hdir : t.isDirectory p = true) (hn : IsName name)
    (hname : name.utf8ByteSize ≤ nameLimit) :
    t.requireShort (p / name) = .ok () ↔ (p / name).toString.utf8ByteSize ≤ pathLimit := by
  rw [requireShort_join_eq hdir hn hname]
  simp

/-- A walk by short names is not refused for their length. -/
theorem walk_ne_nameTooLong {ps : List String} (h : ∀ part ∈ ps, part.utf8ByteSize ≤ nameLimit)
    (l : Location) : t.walk l ps ≠ .error .nameTooLong := by
  induction ps generalizing l with
  | nil =>
    intro hw
    cases hw
  | cons part ps ih =>
    rw [List.forall_mem_cons] at h
    intro hw
    rw [walk] at hw
    split at hw
    · cases hw
    · cases hw
    · rw [if_neg (Nat.not_lt.2 h.1)] at hw
      exact ih h.2 _ hw

/-- Every question about short names below a directory has an answer, unless the path is too
long. -/
theorem requireShort_below {q : String} (hdir : t.isDirectory p = true) (hq : Path.IsBelow q)
    (hparts : ∀ part ∈ (Path.ofString q).parts, part.utf8ByteSize ≤ nameLimit)
    (hsize : (p / q).toString.utf8ByteSize ≤ pathLimit) : t.requireShort (p / q) = .ok () := by
  obtain ⟨-, d, hl, -⟩ := isDirectory_iff.1 hdir
  obtain ⟨-, hwalk⟩ := locate_eq_ok.1 hl
  have hend : t.locate (p / q) = t.walk d (Path.ofString q).parts := by
    rw [locate, if_neg (Nat.not_lt.2 hsize), walk_join t p hq.1, hwalk]
    rfl
  have hshort := walk_ne_nameTooLong (t := t) hparts d
  unfold requireShort
  rw [hend]
  cases (p / q).hasNul with
  | true => rfl
  | false => cases hw : t.walk d (Path.ofString q).parts <;> grind

theorem makeDirectory_eq_ok : t.makeDirectory p = .ok t' ↔
    p.hasNul = false ∧ ∃ l, t.locate p = .ok l ∧ t.at? l = none ∧ t' = t.put l .directory := by
  unfold makeDirectory
  cases p.hasNul with
  | true => simp
  | false =>
    cases t.locate p with
    | error why => simp
    | ok l => cases h : t.at? l <;> simp [h, put, eq_comm]

theorem makeDirectory_of_isDirectory (h : t.isDirectory p = true) :
    t.makeDirectory p = .error (.refused .alreadyExists p) := by
  obtain ⟨hnul, l, hl, hd⟩ := isDirectory_iff.1 h
  simp [makeDirectory, hnul, hl, hd]

theorem ensureDirectory_of_isDirectory (h : t.isDirectory p = true) :
    t.ensureDirectory p = (t, .ok ()) := by
  simp [ensureDirectory, makeDirectory_of_isDirectory h, h]

theorem ensureDirectory_cases (t : FileTree) (p : Path) :
    t.makeDirectory p = .ok (t.ensureDirectory p).1 ∨ (t.ensureDirectory p).1 = t := by
  unfold ensureDirectory
  split
  next t' h => exact .inl h
  next =>
    split
    · exact .inr rfl
    · split <;> exact .inr rfl

theorem changes_put_directory (h : t.at? l = none) :
    Changes (fun m e => m = l ∧ e = .directory) t (t.put l .directory) :=
  .put (by simp [h]) (fun _ => h) ⟨rfl, rfl⟩

theorem changes_ensureDirectory (t : FileTree) (p : Path) :
    Changes (fun l e => e = .directory ∧ (t.ensureDirectory p).1.locate p = .ok l) t
      (t.ensureDirectory p).1 := by
  rcases ensureDirectory_cases t p with h | h
  · obtain ⟨-, l, hl, hnone, hput⟩ := makeDirectory_eq_ok.1 h
    have hmade := changes_put_directory hnone
    rw [hput]
    refine hmade.mono ?_
    rintro m e ⟨rfl, rfl⟩
    exact ⟨rfl, hmade.locate hl⟩
  · rw [h]
    exact .refl _ t

theorem isDirectory_of_ensureDirectory (h : (t.ensureDirectory p).2 = .ok ()) :
    (t.ensureDirectory p).1.isDirectory p = true := by
  rcases hmake : t.makeDirectory p with e | t'
  · -- Nothing is made, so success means that the directory is there.
    rw [ensureDirectory, hmake] at h ⊢
    simp only at h ⊢
    split at h
    next => cases h
    next hne =>
      rw [if_neg hne]
      split at h
      next hd => rwa [if_pos hd]
      next => cases h
  · obtain ⟨hnul, l, hl, hnone, rfl⟩ := makeDirectory_eq_ok.1 hmake
    have hbelow : t.isAbove l = false := isAbove_of_at?_ne (by simp [hnone])
    rw [ensureDirectory, hmake]
    exact isDirectory_iff.2
      ⟨hnul, l, (changes_put_directory hnone).locate hl, at?_put_self hbelow⟩

/-- What is made on the way to a path: directories, at beginnings of the path. -/
def IsOnPath (t : FileTree) (p : Path) (l : Location) (e : Entry) : Prop :=
  e = .directory ∧ ∃ n, t.locate (p.upTo n) = .ok l

theorem Changes.isOnPath {P : Location → Entry → Prop} (h : Changes P t t')
    (hl : IsOnPath t p l e) : IsOnPath t' p l e := by
  obtain ⟨he, n, hn⟩ := hl
  exact ⟨he, n, h.locate hn⟩

theorem changes_ensureDirectories (t : FileTree) (p : Path) (n : Nat) :
    Changes (IsOnPath (t.ensureDirectories p n).1 p) t (t.ensureDirectories p n).1 := by
  have hone : ∀ (u : FileTree) (k : Nat),
      Changes (IsOnPath (u.ensureDirectory (p.upTo k)).1 p) u (u.ensureDirectory (p.upTo k)).1 :=
    fun u k => (changes_ensureDirectory u (p.upTo k)).mono fun l e h => ⟨h.1, k, h.2⟩
  induction n with
  | zero => exact hone t 0
  | succ n ih =>
    rw [ensureDirectories]
    split
    next =>
      split
      next above habove =>
        -- What was made above stays on the path when the last directory is made.
        rw [habove] at ih
        have hlast := hone above (n + 1)
        exact (ih.mono fun l e => hlast.isOnPath).trans hlast
      next => exact ih
    next => exact hone t (n + 1)

theorem isDirectory_of_ensureDirectories {n : Nat} (h : (t.ensureDirectories p n).2 = .ok ()) :
    (t.ensureDirectories p n).1.isDirectory (p.upTo n) = true := by
  cases n with
  | zero => exact isDirectory_of_ensureDirectory h
  | succ n =>
    rw [ensureDirectories] at h ⊢
    split at h
    next =>
      split at h
      next => exact isDirectory_of_ensureDirectory h
      next hfailed => exact (hfailed _ (Prod.ext rfl h)).elim
    next => exact isDirectory_of_ensureDirectory h

/-- **Making a path makes directories only, at beginnings of the path.** -/
theorem changes_makePath (t : FileTree) (p : Path) :
    Changes (IsOnPath (t.makePath p).1 p) t (t.makePath p).1 :=
  changes_ensureDirectories t p p.parts.length

theorem isDirectory_of_makePath (h : (t.makePath p).2 = .ok ()) :
    (t.makePath p).1.isDirectory p = true := by
  have hend := isDirectory_of_ensureDirectories h
  rwa [Path.upTo_length] at hend

theorem makePath_of_isDirectory (h : t.isDirectory p = true) : t.makePath p = (t, .ok ()) := by
  rw [makePath]
  cases hn : p.parts.length with
  | zero =>
    have hp : p.upTo 0 = p := by rw [← hn, Path.upTo_length]
    have hbase : t.ensureDirectory (p.upTo 0) = (t, .ok ()) := by
      rw [hp]
      exact ensureDirectory_of_isDirectory h
    exact hbase
  | succ n =>
    have hp : p.upTo (n + 1) = p := by rw [← hn, Path.upTo_length]
    have hmake : t.makeDirectory (p.upTo (n + 1)) = .error (.refused .alreadyExists p) := by
      rw [hp]
      exact makeDirectory_of_isDirectory h
    have hlast : t.ensureDirectory (p.upTo (n + 1)) = (t, .ok ()) := by
      rw [hp]
      exact ensureDirectory_of_isDirectory h
    rw [ensureDirectories]
    simp only [show (⟨p.anchor, p.parts.take (n + 1)⟩ : Path) = p.upTo (n + 1) from rfl, hmake,
      hlast]

/-- Whether nothing stands in the directory at a location. -/
def IsBare (t : FileTree) (d : Location) : Prop := ∀ name, t.at? (d ++ [name]) = none

theorem isEmptyDirectory_eq_ok {empty : Bool} : t.isEmptyDirectory p = .ok empty ↔
    p.hasNul = false ∧ ∃ d, t.locate p = .ok d ∧ t.at? d = some .directory ∧
      (!(t.current :: t.entries.keys).any fun k => d.isPrefixOf k && d ≠ k) = empty := by
  unfold isEmptyDirectory
  cases p.hasNul with
  | true => simp
  | false =>
    cases t.locate p with
    | error why => simp
    | ok d =>
      cases h : t.at? d with
      | none => simp [h]
      | some e => cases e <;> simp [h]

/-- Nothing is below a directory iff nothing stands below it, the current directory included. -/
theorem any_below_eq_false {d : Location} :
    ((t.current :: t.entries.keys).any fun k => d.isPrefixOf k && d ≠ k) = false ↔
      ∀ k, d <+: k → d ≠ k → t.at? k = none := by
  simp only [List.any_eq_false, List.mem_cons, Bool.and_eq_true, List.isPrefixOf_iff_prefix,
    decide_eq_true_eq, not_and, not_not]
  constructor
  · intro h k hd hne
    have habove : t.isAbove k = false := Bool.eq_false_iff.2 fun habove => by
      have hcurrent := isAbove_iff.1 habove
      have hsame := h t.current (.inl rfl) (hd.trans hcurrent)
      exact hne (hd.eq_of_length_le (hsame ▸ hcurrent.length_le))
    rw [at?, habove]
    exact Entries.get?_eq_none_iff.2 fun hk => hne (h k (.inr hk) hd)
  · intro h k hk hd
    by_contra hne
    have hnone := h k hd hne
    rcases hk with rfl | hk
    · rw [at?_current] at hnone
      cases hnone
    · unfold at? at hnone
      split at hnone
      next => cases hnone
      next => exact Entries.get?_eq_none_iff.1 hnone hk

theorem isBare_of_isEmptyDirectory (h : t.isEmptyDirectory p = .ok true)
    (hd : t.locate p = .ok d) : t.IsBare d := by
  obtain ⟨-, d', hd', -, hempty⟩ := isEmptyDirectory_eq_ok.1 h
  cases hd.symm.trans hd'
  rw [Bool.not_eq_true'] at hempty
  exact fun name => any_below_eq_false.1 hempty _ (List.prefix_append _ _) (by simp)

theorem Changes.isBare {P : Location → Entry → Prop} (h : Changes P t t') (hd : t'.IsBare d) :
    t.IsBare d :=
  fun name => h.none_of_none (hd name)

theorem isEmptyDirectory_of_at? {d : Location} {name : String} (hdir : t.isDirectory p = true)
    (hd : t.locate p = .ok d) (he : t.at? (d ++ [name]) = some e) :
    t.isEmptyDirectory p = .ok false := by
  obtain ⟨hnul, d', hd', hdirectory⟩ := isDirectory_iff.1 hdir
  cases hd.symm.trans hd'
  refine isEmptyDirectory_eq_ok.2 ⟨hnul, d, hd, hdirectory, ?_⟩
  rw [Bool.not_eq_false', ← Bool.not_eq_false]
  intro hnone
  have hgone := any_below_eq_false.1 hnone (d ++ [name]) (List.prefix_append _ _) (by simp)
  rw [hgone] at he
  cases he

theorem isDirectory_of_isEmptyDirectory {empty : Bool} (h : t.isEmptyDirectory p = .ok empty) :
    t.isDirectory p = true := by
  obtain ⟨hnul, d, hd, hdir, -⟩ := isEmptyDirectory_eq_ok.1 h
  exact isDirectory_iff.2 ⟨hnul, d, hd, hdir⟩

end FileTree

end Fingerprint
