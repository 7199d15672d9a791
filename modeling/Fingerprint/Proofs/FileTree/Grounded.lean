/-
Trees in which whatever stands somewhere stands in a directory (`Grounded`).
Every way to write keeps a tree grounded (`Grounded.put`). In a grounded tree
nothing can be below a place where nothing is, so a directory that is made
there is empty (`isEmptyDirectory_makePath_of_absent`), provided that the path
does not go up again from where it is missing: then it leads somewhere else.
-/
import Mathlib.Data.List.Induction
import Fingerprint.Proofs.FileTree.Descent
import Fingerprint.Proofs.FileTree.Writes

namespace Fingerprint

namespace FileTree

variable {t t' : FileTree} {l m : Location} {e : Entry} {p : Path} {ps qs : List String}

/-- Whether everything stands in a directory. -/
def Grounded (t : FileTree) : Prop :=
  ∀ l name, t.at? (l ++ [name]) ≠ none → t.at? l = some .directory

theorem grounded_empty (name : String) : (empty name).Grounded := by
  intro l part h
  by_cases habove : (empty name).isAbove (l ++ [part]) = true
  · exact at?_of_isAbove (isAbove_of_isPrefix habove (List.prefix_append l [part]))
  · rw [at?, if_neg habove] at h
    exact absurd rfl h

theorem Grounded.at?_eq_none_below (h : t.Grounded) (hl : t.IsBare l) (hlm : l <+: m)
    (hne : l ≠ m) : t.at? m = none := by
  obtain ⟨names, rfl⟩ := hlm
  induction names using List.reverseRecOn with
  | nil => simp at hne
  | append_singleton names name ih =>
    rw [← List.append_assoc]
    by_contra hsome
    have hparent := h _ _ hsome
    by_cases hnames : names = []
    · rw [hnames, List.append_nil] at hsome
      exact hsome (hl name)
    · rw [ih (by simpa using hnames)] at hparent
      cases hparent

theorem Grounded.isEmptyDirectory (h : t.Grounded) (hdir : t.isDirectory p = true)
    (hl : t.locate p = .ok l) (hbare : t.IsBare l) : t.isEmptyDirectory p = .ok true := by
  obtain ⟨hnul, l', hl', hd⟩ := isDirectory_iff.1 hdir
  cases hl.symm.trans hl'
  refine isEmptyDirectory_eq_ok.2 ⟨hnul, l, hl, hd, ?_⟩
  rw [any_below_eq_false.2 fun m => h.at?_eq_none_below hbare]
  rfl

/-- Where nothing is at the end of a walk, it is missing in a directory. -/
theorem Grounded.exists_parent (h : t.Grounded) (hw : t.walk m ps = .ok l) (hm : t.at? m ≠ none)
    (hl : t.at? l = none) : ∃ k name, l = k ++ [name] ∧ t.at? k = some .directory := by
  rcases List.eq_nil_or_concat ps with rfl | ⟨qs, part, rfl⟩
  · cases hw
    exact absurd hl hm
  · rw [List.concat_eq_append, walk_append_eq_ok] at hw
    obtain ⟨k, -, hlast⟩ := hw
    obtain ⟨hk, rfl⟩ := walk_singleton_eq_ok hlast
    by_cases hup : part = ".."
    · -- A step up leads to a directory, since everything stands in one.
      rw [step, if_pos hup] at hl
      rcases List.eq_nil_or_concat k with rfl | ⟨k, name, rfl⟩
      · rw [List.dropLast_nil, hk] at hl
        cases hl
      · rw [List.concat_eq_append, List.dropLast_concat] at hl
        rw [List.concat_eq_append] at hk
        rw [h k name (by simp [hk])] at hl
        cases hl
    · exact ⟨k, part, step_name k hup, hk⟩

/-- **A write at the end of a path keeps a tree grounded**, if it is not over a directory. -/
theorem Grounded.put (h : t.Grounded) (hl : t.locate p = .ok l) (hdir : t.at? l ≠ some .directory)
    (e : Entry) : (t.put l e).Grounded := by
  obtain ⟨-, hw⟩ := locate_eq_ok.1 hl
  intro k name hk
  by_cases hsame : l = k ++ [name]
  · have hparent : t.at? k = some .directory := by
      by_cases hnone : t.at? l = none
      · have hbegin : t.at? (t.start p) ≠ none := by simp [at?_of_isAbove (t.isAbove_start p)]
        obtain ⟨k', name', hk', hd⟩ := h.exists_parent hw hbegin hnone
        rw [hsame] at hk'
        rwa [(List.append_inj' hk' rfl).1]
      · exact h k name (hsame ▸ hnone)
    rwa [at?_put_other (by simp [hsame])]
  · rw [at?_put_other hsame] at hk
    have hparent := h k name hk
    have hother : l ≠ k := fun he => hdir (he ▸ hparent)
    rwa [at?_put_other hother]

theorem Grounded.ensureDirectory (h : t.Grounded) (p : Path) : (t.ensureDirectory p).1.Grounded := by
  rcases ensureDirectory_cases t p with hmake | hsame
  · obtain ⟨-, l, hl, hnone, hput⟩ := makeDirectory_eq_ok.1 hmake
    rw [hput]
    exact h.put hl (by simp [hnone]) _
  · rwa [hsame]

theorem Grounded.ensureDirectories (h : t.Grounded) (p : Path) (n : Nat) :
    (t.ensureDirectories p n).1.Grounded := by
  induction n with
  | zero => exact h.ensureDirectory _
  | succ n ih =>
    rw [FileTree.ensureDirectories]
    split
    next =>
      split
      next above habove =>
        rw [habove] at ih
        exact ih.ensureDirectory _
      next => exact ih
    next => exact h.ensureDirectory _

theorem Grounded.makePath (h : t.Grounded) (p : Path) : (t.makePath p).1.Grounded :=
  h.ensureDirectories p p.parts.length

/-- Where something stands, every walk down to it is possible that is so in another tree. -/
theorem Grounded.walk_of_walk (h : t.Grounded) (hdown : ".." ∉ ps) (hw : t'.walk m ps = .ok l)
    (hl : t.at? l ≠ none) : t.walk m ps = .ok l := by
  induction ps using List.reverseRecOn generalizing l with
  | nil => exact hw
  | append_singleton ps part ih =>
    rw [List.mem_append, List.mem_singleton, not_or] at hdown
    obtain ⟨k, hfirst, hlast⟩ := walk_append_eq_ok.1 hw
    obtain ⟨hk', hstep⟩ := walk_singleton_eq_ok hlast
    rw [step_name k (Ne.symm hdown.2)] at hstep
    have hk : t.at? k = some .directory := h k part (hstep ▸ hl)
    have hlast' : t.walk k [part] = .ok l := by
      rw [walk_of_directory hk'] at hlast
      rwa [walk_of_directory hk]
    exact walk_append_eq_ok.2 ⟨k, ih hdown.1 hfirst (by simp [hk]), hlast'⟩

/-- A walk that leads to something began at something. -/
theorem at?_ne_none_of_walk (hw : t.walk l ps = .ok m) (hm : t.at? m ≠ none) : t.at? l ≠ none := by
  cases ps with
  | nil =>
    cases hw
    exact hm
  | cons part ps =>
    intro hl
    rw [walk, hl] at hw
    cases hw

section Absent

variable {n : Nat}

/-- Where a path leads that was missing and goes down from a directory, nothing was. -/
theorem Grounded.at?_eq_none_of_absent (h : t.Grounded) {P : Location → Entry → Prop}
    (hc : Changes P t t') (habsent : t.pathExists p = false) (hnul : p.hasNul = false)
    (hl : t'.locate p = .ok l) (hm : t.locate (p.upTo n) = .ok m) (hdown : ".." ∉ p.parts.drop n) :
    t.at? l = none := by
  obtain ⟨hshort, hwhole⟩ := locate_eq_ok.1 hl
  obtain ⟨-, hbegin⟩ := locate_eq_ok.1 hm
  rw [start_congr hc.current, ← List.take_append_drop n p.parts] at hwhole
  obtain ⟨m', hm', hrest⟩ := walk_append_eq_ok.1 hwhole
  cases (hc.walk hbegin).symm.trans hm'
  refine Classical.byContradiction fun hsome => ?_
  have hthere := walk_append_eq_ok.2 ⟨m, hbegin, h.walk_of_walk hdown hrest hsome⟩
  rw [Path.upTo, List.take_append_drop] at hthere
  obtain ⟨e, he⟩ := Option.ne_none_iff_exists'.1 hsome
  rw [pathExists_iff.2 ⟨hnul, l, e, locate_eq_ok.2 ⟨hshort, hthere⟩, he⟩] at habsent
  cases habsent

/-- No beginning of the path leads to a new place below its end. -/
theorem not_locate_below (hc : Changes (IsOnPath t' p) t t') (hl : t'.locate p = .ok l)
    (hm : t.locate (p.upTo n) = .ok m) (hmdir : t.at? m = some .directory)
    (hdown : ".." ∉ p.parts.drop n) {name : String} (hnone : t.at? (l ++ [name]) = none) (j : Nat) :
    t'.locate (p.upTo j) ≠ .ok (l ++ [name]) := by
  intro hj
  obtain ⟨-, hj⟩ := locate_eq_ok.1 hj
  by_cases hjn : n ≤ j
  · -- The rest of the path goes down from there, and so ends below.
    obtain ⟨-, hwhole⟩ := locate_eq_ok.1 hl
    rw [← List.take_append_drop j p.parts] at hwhole
    obtain ⟨k, hk, hrest⟩ := walk_append_eq_ok.1 hwhole
    cases hj.symm.trans hk
    have hdown' : ".." ∉ p.parts.drop j := fun hup =>
      hdown ((List.drop_sublist_drop_left _ hjn).subset hup)
    have hlength := congrArg List.length (walk_down hrest hdown')
    simp only [List.length_append, List.length_singleton] at hlength
    omega
  · -- It is on the way to a directory that was there.
    obtain ⟨-, hbegin⟩ := locate_eq_ok.1 hm
    have hparts : p.parts.take n = p.parts.take j ++ (p.parts.take n).drop j := by
      have htake := List.take_append_drop j (p.parts.take n)
      rw [List.take_take, Nat.min_eq_left (by omega)] at htake
      exact htake.symm
    rw [Path.upTo, hparts] at hbegin
    obtain ⟨k, hk, hrest⟩ := walk_append_eq_ok.1 hbegin
    cases hj.symm.trans (start_congr hc.current _ ▸ hc.walk hk)
    exact at?_ne_none_of_walk hrest (by simp [hmdir]) hnone

/-- **A directory made where nothing was is empty**, if the path goes down only from one of its
directories that was there. -/
theorem isEmptyDirectory_makePath_of_absent (h : t.Grounded) (hmade : (t.makePath p).2 = .ok ())
    (habsent : t.pathExists p = false) (hdir : t.isDirectory (p.upTo n) = true)
    (hdown : ".." ∉ p.parts.drop n) : (t.makePath p).1.isEmptyDirectory p = .ok true := by
  have hc := changes_makePath t p
  have hdir' := isDirectory_of_makePath hmade
  have h' := h.makePath p
  generalize (t.makePath p).1 = t' at hc hdir' h' ⊢
  obtain ⟨hnul, l, hl, -⟩ := isDirectory_iff.1 hdir'
  obtain ⟨-, m, hm, hmdir⟩ := isDirectory_iff.1 hdir
  have hnone := h.at?_eq_none_of_absent hc habsent hnul hl hm hdown
  refine h'.isEmptyDirectory hdir' hl fun name => ?_
  have hold : t.at? (l ++ [name]) = none := Classical.byContradiction fun hne => by
    rw [h l name hne] at hnone
    cases hnone
  rcases hc.entry (l ++ [name]) with hsame | ⟨-, e, -, -, -, j, hj⟩
  · exact hsame.trans hold
  · exact absurd hj (not_locate_below hc hl hm hmdir hdown hold j)

end Absent

end FileTree

namespace Scaffold

open FileTree

variable {α : Type} [Text.Content α] {t : FileTree}

theorem grounded_writeFile (h : t.Grounded) (target : Path) (content : α) :
    (writeFile t target content).1.Grounded := by
  unfold writeFile
  have hmade := h.makePath target.parent
  split
  next t' e hm => rwa [hm] at hmade
  next t' hm =>
    rw [hm] at hmade
    cases hw : t'.write target (writtenBytes content) with
    | error e => exact hmade
    | ok t'' =>
      obtain ⟨-, l, hl, hdir, rfl⟩ := write_eq_ok.1 hw
      have hput := hmade.put hl hdir (.file (writtenBytes content))
      cases Text.Content.encode content <;> exact hput

theorem grounded_writeFiles (h : t.Grounded) (dir : Path) (files : List (String × α)) :
    (writeFiles t dir files).1.Grounded := by
  induction files generalizing t with
  | nil => exact h
  | cons f rest ih =>
    rw [writeFiles]
    have hfirst := grounded_writeFile h (dir / f.1) f.2
    split
    next t' e hw => rwa [hw] at hfirst
    next t' hw =>
      rw [hw] at hfirst
      exact ih hfirst

end Scaffold

end Fingerprint
