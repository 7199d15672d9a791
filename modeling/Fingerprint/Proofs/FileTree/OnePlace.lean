/-
Trees that differ at one place only, or below it. A walk to a directory does
not pass a place where a file stands, so it is the same in both trees
(`DifferWithin.walk`); and a path into that directory leads alike unless it
takes the name of the place (`DifferAtFile.leadsAlike_join`). Writing a file or
removing it makes such a difference (`differAtFile_put`, `differAtFile_remove`).
-/
import Fingerprint.Proofs.FileTree.Alike

namespace Fingerprint.FileTree

variable {t t' : FileTree} {p dir : Path} {d l m : Location} {name : String} {bytes : List UInt8}

/-- Whether two trees hold the same, except at a place and below it. -/
structure DifferWithin (l : Location) (t t' : FileTree) : Prop where
  current : t'.current = t.current
  entry : ∀ m, ¬ l <+: m → t'.at? m = t.at? m

/-- A step comes below a place only through the place itself. -/
theorem step_eq_of_isPrefix (hm : ¬ l <+: m) {part : String} (h : l <+: step m part) :
    step m part = l := by
  unfold step at h ⊢
  split at h
  next hup =>
    exact absurd (h.trans (List.dropLast_prefix m)) hm
  next hup =>
    rw [if_neg hup]
    rcases List.prefix_concat_iff.1 h with hsame | hlong
    · exact hsame.symm
    · exact absurd hlong hm

theorem not_isPrefix_step {part : String} (hm : ¬ d ++ [name] <+: m) (hup : part ≠ "..")
    (hother : part ≠ name) : ¬ d ++ [name] <+: step m part := by
  rw [step_name m hup, List.prefix_concat_iff]
  rintro (hsame | habove)
  · exact hother (by simpa using (List.append_inj' hsame rfl).2.symm)
  · exact hm habove

theorem eq_of_walk (hl : t.at? l ≠ some .directory) {ps : List String}
    (hw : t.walk l ps = .ok m) : m = l := by
  cases ps with
  | nil =>
    cases hw
    rfl
  | cons part ps =>
    rw [walk] at hw
    split at hw
    next => cases hw
    next => cases hw
    next hd => exact absurd hd hl

namespace DifferWithin

/-- **A walk to a directory is the same** in two trees that differ where a file stands. -/
theorem walk (h : DifferWithin l t t') (hl : t.at? l ≠ some .directory) {ps : List String}
    (hm : ¬ l <+: m) (hw : t.walk m ps = .ok d) (hd : t.at? d = some .directory) :
    t'.walk m ps = .ok d ∧ ¬ l <+: d := by
  induction ps generalizing m with
  | nil =>
    cases hw
    exact ⟨rfl, hm⟩
  | cons part ps ih =>
    rw [FileTree.walk] at hw
    split at hw
    next => cases hw
    next => cases hw
    next hhere =>
      rw [walk_of_directory ((h.entry m hm).trans hhere)]
      split at hw
      next => cases hw
      next hshort =>
        rw [if_neg hshort]
        refine ih (fun hbelow => ?_) hw
        -- The step would end at the place itself, and the walk with it.
        rw [step_eq_of_isPrefix hm hbelow] at hw
        exact hl (eq_of_walk hl hw ▸ hd)

end DifferWithin

/-- Where a name in a directory leads to a file, with the way there. -/
theorem exists_of_isFile_join (hn : IsName name) (hf : t.isFile (dir / name) = true) :
    ∃ d bytes, t.walk (t.start dir) dir.parts = .ok d ∧ t.at? d = some .directory ∧
      t.locate (dir / name) = .ok (d ++ [name]) ∧ t.at? (d ++ [name]) = some (.file bytes) := by
  obtain ⟨-, l, bytes, hl, hfile⟩ := isFile_iff.1 hf
  obtain ⟨-, hwalk⟩ := locate_eq_ok.1 hl
  obtain ⟨d, hd, hdir, rfl⟩ := exists_of_walk_join hn hwalk
  exact ⟨d, bytes, hd, hdir, hl, hfile⟩

/-- Whether two trees hold the same, except that where one has a file at a path the other may have
something else there and below. -/
def DifferAtFile (p : Path) (t t' : FileTree) : Prop :=
  ∀ l, t.locate p = .ok l → DifferWithin l t t'

namespace DifferAtFile

theorem exists_directory (hn : IsName name) (hf : t.isFile (dir / name) = true)
    (h : DifferAtFile (dir / name) t t') :
    ∃ d, t.walk (t.start dir) dir.parts = .ok d ∧ t'.walk (t'.start dir) dir.parts = .ok d ∧
      t.at? d = some .directory ∧ ¬ d ++ [name] <+: d ∧ DifferWithin (d ++ [name]) t t' := by
  obtain ⟨d, bytes, hd, hdir, hl, hfile⟩ := exists_of_isFile_join hn hf
  have hne : t.at? (d ++ [name]) ≠ some .directory := by simp [hfile]
  obtain ⟨hd', hnot⟩ := (h _ hl).walk hne (not_isPrefix_start hne dir) hd hdir
  exact ⟨d, hd, start_congr (h _ hl).current dir ▸ hd', hdir, hnot, h _ hl⟩

theorem leadsAlike_directory (hn : IsName name) (hf : t.isFile (dir / name) = true)
    (h : DifferAtFile (dir / name) t t') : LeadsAlike t t' dir := by
  obtain ⟨d, hd, hd', -, hnot, hdiffer⟩ := h.exists_directory hn hf
  refine leadsAlike_of_locate ?_ fun k hk => ?_
  · rw [FileTree.locate, FileTree.locate, hd, hd']
  · obtain ⟨-, hw⟩ := locate_eq_ok.1 hk
    cases hd.symm.trans hw
    exact hdiffer.entry d hnot

/-- **A path into the directory of a file leads alike** if it does not take the file's name. -/
theorem leadsAlike_join (hn : IsName name) (hf : t.isFile (dir / name) = true)
    (h : DifferAtFile (dir / name) t t') {q : String} (hanchor : (Path.ofString q).anchor = "")
    (hq : ∀ part ∈ (Path.ofString q).parts, part ≠ ".." ∧ part ≠ name) :
    LeadsAlike t t' (dir / q) := by
  obtain ⟨d, hd, hd', -, hnot, hdiffer⟩ := h.exists_directory hn hf
  refine FileTree.leadsAlike_join hanchor hd hd' (walk_congr hdiffer.entry ?_ hnot)
  intro m hm part hpart
  exact not_isPrefix_step hm (hq part hpart).1 (hq part hpart).2

theorem locate_eq (hn : IsName name) (hf : t.isFile (dir / name) = true)
    (h : DifferAtFile (dir / name) t t') : t'.locate (dir / name) = t.locate (dir / name) := by
  obtain ⟨d, hd, hd', hdir, hnot, hdiffer⟩ := h.exists_directory hn hf
  have hdir' : t'.at? d = some .directory := (hdiffer.entry d hnot).trans hdir
  rw [FileTree.locate, FileTree.locate, walk_join_of_directory hn hd hdir,
    walk_join_of_directory hn hd' hdir']

end DifferAtFile

theorem differWithin_put (t : FileTree) (l : Location) (e : Entry) : DifferWithin l t (t.put l e) where
  current := rfl
  entry := fun m hm => by
    have hne : l ≠ m := fun h => hm (h ▸ List.prefix_refl l)
    exact at?_put_other hne

theorem differAtFile_put (hl : t.locate p = .ok l) (e : Entry) : DifferAtFile p t (t.put l e) := by
  intro k hk
  cases hl.symm.trans hk
  exact differWithin_put t l e

theorem at?_remove (hl : t.locate p = .ok l) (m : Location) :
    (t.remove p).at? m =
      if t.isAbove m then some .directory else if l <+: m then none else t.entries.get? m := by
  have hentries : (t.remove p).entries = t.entries.filter fun k _ => !l.isPrefixOf k := by
    rw [remove, hl]
  have habove : (t.remove p).isAbove m = t.isAbove m := by
    rw [isAbove, remove, hl]
    rfl
  rw [at?, habove]
  split
  · rfl
  · rw [hentries, Table.get?_filter t.entries fun k => !l.isPrefixOf k]
    by_cases hbelow : l <+: m
    · simp [hbelow, List.isPrefixOf_iff_prefix.2 hbelow]
    · have hfalse : l.isPrefixOf m = false := by
        rw [← Bool.not_eq_true, List.isPrefixOf_iff_prefix]
        exact hbelow
      simp [hbelow, hfalse]

theorem differWithin_remove (hl : t.locate p = .ok l) : DifferWithin l t (t.remove p) where
  current := by rw [remove, hl]
  entry := fun m hm => by
    rw [at?_remove hl, at?, if_neg hm]

theorem differAtFile_remove (t : FileTree) (p : Path) : DifferAtFile p t (t.remove p) :=
  fun _ hl => differWithin_remove hl

theorem isFile_remove (hn : IsName name) (hf : t.isFile (dir / name) = true) :
    (t.remove (dir / name)).isFile (dir / name) = false := by
  obtain ⟨d, bytes, hd, hdir, hl, hfile⟩ := exists_of_isFile_join hn hf
  have hdiffer := differAtFile_remove t (dir / name)
  have hgone : (t.remove (dir / name)).at? (d ++ [name]) = none := by
    rw [at?_remove hl, if_neg, if_pos (List.prefix_refl _)]
    rw [isAbove_of_at?_ne (by simp [hfile])]
    simp
  rw [← Bool.not_eq_true, isFile_iff]
  rintro ⟨-, k, bytes', hk, hfile'⟩
  rw [hdiffer.locate_eq hn hf, hl] at hk
  cases hk
  rw [hgone] at hfile'
  cases hfile'

end Fingerprint.FileTree
