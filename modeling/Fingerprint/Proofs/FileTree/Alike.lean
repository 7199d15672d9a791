/-
Paths that lead to the same in two trees. All questions about such a path have
the same answer in both. A path stays such a path as long as what changes in
the tree has other names than those on its way (`leadsAlike_join`).
-/
import Fingerprint.Proofs.FileTree.Directories

namespace Fingerprint.FileTree

variable {t t' : FileTree} {p dir : Path} {l m : Location} {names : List String}

/-- Whether a path leads to the same in two trees. -/
structure LeadsAlike (t t' : FileTree) (p : Path) : Prop where
  locate : t'.locate p = t.locate p
  find : t'.find p = t.find p

/-- Whether a path is refused for its length hangs on where it leads, not on what stands there. -/
theorem requireShort_congr (h : t'.locate p = t.locate p) : t'.requireShort p = t.requireShort p := by
  rw [requireShort, requireShort, h]

namespace LeadsAlike

theorem requireShort (h : LeadsAlike t t' p) : t'.requireShort p = t.requireShort p :=
  requireShort_congr h.locate

theorem pathExists (h : LeadsAlike t t' p) : t'.pathExists p = t.pathExists p := by
  rw [FileTree.pathExists, FileTree.pathExists, h.find]

theorem isDirectory (h : LeadsAlike t t' p) : t'.isDirectory p = t.isDirectory p := by
  rw [FileTree.isDirectory, FileTree.isDirectory, h.find]

theorem isFile (h : LeadsAlike t t' p) : t'.isFile p = t.isFile p := by
  rw [FileTree.isFile, FileTree.isFile, h.find]

theorem checkFile (h : LeadsAlike t t' p) : t'.checkFile p = t.checkFile p := by
  rw [FileTree.checkFile, FileTree.checkFile, h.requireShort, h.isFile]

theorem read (h : LeadsAlike t t' p) : t'.read p = t.read p := by
  rw [FileTree.read, FileTree.read, h.find]

end LeadsAlike

theorem leadsAlike_of_locate (h : t'.locate p = t.locate p)
    (hat : ∀ l, t.locate p = .ok l → t'.at? l = t.at? l) : LeadsAlike t t' p := by
  refine ⟨h, ?_⟩
  unfold find
  rw [h]
  cases hl : t.locate p with
  | error why => rfl
  | ok l =>
    simp only [bind, Except.bind]
    rw [hat l hl]

theorem Changes.leadsAlike_directory {P : Location → Entry → Prop} (h : Changes P t t')
    (hdir : t.isDirectory p = true) : LeadsAlike t t' p := by
  obtain ⟨-, d, hl, hd⟩ := isDirectory_iff.1 hdir
  refine leadsAlike_of_locate ((h.locate hl).trans hl.symm) fun l hl' => ?_
  cases hl.symm.trans hl'
  rw [hd, h.directory hd]

/-- Whether two trees differ only in entries of certain names. -/
def DifferAt (names : List String) (t t' : FileTree) : Prop :=
  ∀ l, (∀ name ∈ names, l.getLast? ≠ some name) → t'.at? l = t.at? l

/-- **A walk that stays where two trees agree** ends at the same place in both, with the same entry
there. -/
theorem walk_congr {S : Location → Prop} (hsame : ∀ m, S m → t'.at? m = t.at? m)
    {ps : List String} (hstep : ∀ m, S m → ∀ part ∈ ps, S (step m part)) (hl : S l) :
    t'.walk l ps = t.walk l ps ∧ ∀ m, t.walk l ps = .ok m → t'.at? m = t.at? m := by
  induction ps generalizing l with
  | nil =>
    refine ⟨rfl, fun m hm => ?_⟩
    cases hm
    exact hsame l hl
  | cons part ps ih =>
    have hnext : S (step l part) := hstep l hl part List.mem_cons_self
    have hrest : ∀ m, S m → ∀ q ∈ ps, S (step m q) :=
      fun m hm q hq => hstep m hm q (List.mem_cons_of_mem part hq)
    rw [walk, walk, hsame l hl]
    cases t.at? l with
    | none => exact ⟨rfl, fun m hm => by cases hm⟩
    | some e =>
      cases e with
      | file bytes => exact ⟨rfl, fun m hm => by cases hm⟩
      | directory =>
        simp only
        split
        · exact ⟨rfl, fun m hm => by cases hm⟩
        · exact ih hrest hnext

/-- A path into a directory leads alike if both trees lead to the directory and the walk on from
there is the same. -/
theorem leadsAlike_join {d : Location} {q : String} (hanchor : (Path.ofString q).anchor = "")
    (hd : t.walk (t.start dir) dir.parts = .ok d) (hd' : t'.walk (t'.start dir) dir.parts = .ok d)
    (hq : t'.walk d (Path.ofString q).parts = t.walk d (Path.ofString q).parts ∧
      ∀ m, t.walk d (Path.ofString q).parts = .ok m → t'.at? m = t.at? m) :
    LeadsAlike t t' (dir / q) := by
  obtain ⟨hsame, hend⟩ := hq
  have hbelow : t.walk (t.start (dir / q)) (dir / q).parts = t.walk d (Path.ofString q).parts := by
    rw [walk_join t dir hanchor, hd]
    rfl
  have hbelow' : t'.walk (t'.start (dir / q)) (dir / q).parts =
      t'.walk d (Path.ofString q).parts := by
    rw [walk_join t' dir hanchor, hd']
    rfl
  refine leadsAlike_of_locate ?_ fun l hl' => ?_
  · rw [FileTree.locate, FileTree.locate, hbelow, hbelow', hsame]
  · obtain ⟨-, hw⟩ := locate_eq_ok.1 hl'
    exact hend l (hbelow ▸ hw)

/-- **A path into a directory leads alike** if it takes none of the names that differ. -/
theorem Changes.leadsAlike_join {P : Location → Entry → Prop} (h : Changes P t t')
    (hdiffer : DifferAt names t t') (hdir : t.isDirectory dir = true) {q : String}
    (hanchor : (Path.ofString q).anchor = "")
    (hq : ∀ part ∈ (Path.ofString q).parts, part ≠ ".." ∧ part ∉ names) :
    LeadsAlike t t' (dir / q) := by
  obtain ⟨-, d, hl, hd⟩ := isDirectory_iff.1 hdir
  obtain ⟨-, hwalk⟩ := locate_eq_ok.1 hl
  -- The directory itself may have one of the names; below it the walk takes none.
  have hsame : ∀ m, (m = d ∨ ∀ name ∈ names, m.getLast? ≠ some name) → t'.at? m = t.at? m := by
    rintro m (rfl | hm)
    · rw [hd, h.directory hd]
    · exact hdiffer m hm
  refine FileTree.leadsAlike_join hanchor hwalk (start_congr h.current dir ▸ h.walk hwalk)
    (walk_congr hsame (fun m _ part hpart => .inr fun name hn hlast => ?_) (.inl rfl))
  obtain ⟨hup, hnot⟩ := hq part hpart
  rw [step_name m hup, List.getLast?_concat] at hlast
  cases hlast
  exact hnot hn

end Fingerprint.FileTree
