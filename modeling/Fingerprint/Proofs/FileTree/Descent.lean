/-
Ways down by names. A relative name of ordinary components is read as just
these components (`ofString_of_isRelative`), so two such names that are read
alike are the same. A walk down by names ends below where it began, under these
names (`walk_down`), so two different walks down end at different places
(`parts_eq_of_walk`).
-/
import Fingerprint.Proofs.FileTree.Directories

namespace Fingerprint

open Text

/-- Whether a text is a relative path of ordinary components: none between its slashes is empty, a
dot or two dots. -/
def IsRelative (name : String) : Prop :=
  ∀ part ∈ splitOn '/' name.toList, part ≠ [] ∧ part ≠ ['.'] ∧ part ≠ ['.', '.']

instance : DecidablePred IsRelative := fun _ => List.decidableBAll _ _

namespace Path

variable {name name' : String}

theorem splitOn_cons_sep (sep : Char) (s : List Char) : splitOn sep (sep :: s) = [] :: splitOn sep s := by
  simp [splitOn, splitWhere]

theorem anchorOf_of_head?_ne {s : List Char} (h : s.head? ≠ some '/') : anchorOf s = "" := by
  unfold anchorOf
  split <;> first | rfl | exact absurd rfl h

/-- **A relative name is read as its components**, each as it stands. -/
theorem ofString_of_isRelative (h : IsRelative name) :
    ofString name = ⟨"", (splitOn '/' name.toList).map String.ofList⟩ := by
  have hanchor : anchorOf name.toList = "" := by
    refine anchorOf_of_head?_ne fun hslash => ?_
    obtain ⟨rest, hrest⟩ := List.head?_eq_some_iff.1 hslash
    refine (h [] ?_).1 rfl
    rw [hrest, splitOn_cons_sep]
    exact List.mem_cons_self
  have hkept : (splitOn '/' name.toList).filter isKept = splitOn '/' name.toList :=
    List.filter_eq_self.2 fun part hpart => by simp [isKept, (h part hpart).1, (h part hpart).2.1]
  rw [ofString, hanchor, partsOf, hkept]

theorem join_relative (dir : Path) (h : IsRelative name) :
    dir / name = ⟨dir.anchor, dir.parts ++ (splitOn '/' name.toList).map String.ofList⟩ := by
  rw [join_of_anchor dir (by rw [ofString_of_isRelative h]), ofString_of_isRelative h]

theorem up_not_mem_of_isRelative (h : IsRelative name) :
    ".." ∉ (splitOn '/' name.toList).map String.ofList := by
  intro hup
  obtain ⟨part, hpart, htext⟩ := List.mem_map.1 hup
  refine (h part hpart).2.2 ?_
  rw [← String.toList_ofList (l := part), htext]
  rfl

theorem name_eq_of_components
    (h : (splitOn '/' name.toList).map String.ofList = (splitOn '/' name'.toList).map String.ofList) :
    name = name' := by
  have hinjective : Function.Injective String.ofList := fun a b hab => by
    rw [← String.toList_ofList (l := a), hab, String.toList_ofList]
  have hsplit := (List.map_inj_right fun a b => @hinjective a b).1 h
  rw [← String.toList_inj, ← join_splitOn '/' name.toList, hsplit, join_splitOn]

end Path

namespace FileTree

variable {t : FileTree} {dir : Path} {d l : Location} {ps qs : List String} {name name' : String}

/-- **A walk down ends below where it began**, under the names that it takes. -/
theorem walk_down (h : t.walk d ps = .ok l) (hdown : ".." ∉ ps) : l = d ++ ps := by
  induction ps generalizing d with
  | nil =>
    cases h
    exact (List.append_nil l).symm
  | cons part ps ih =>
    rw [List.mem_cons, not_or] at hdown
    rw [← List.singleton_append, walk_append_eq_ok] at h
    obtain ⟨k, hfirst, hrest⟩ := h
    obtain ⟨-, rfl⟩ := walk_singleton_eq_ok hfirst
    rw [ih hrest hdown.2, step_name d (Ne.symm hdown.1), List.append_assoc, List.singleton_append]

/-- **Different walks down end at different places.** -/
theorem parts_eq_of_walk (hp : t.walk d ps = .ok l) (hq : t.walk d qs = .ok l) (hps : ".." ∉ ps)
    (hqs : ".." ∉ qs) : ps = qs :=
  List.append_cancel_left ((walk_down hp hps).symm.trans (walk_down hq hqs))

theorem locate_relative (h : IsRelative name) (hl : t.locate (dir / name) = .ok l) :
    ∃ d, t.walk (t.start dir) dir.parts = .ok d ∧
      t.walk d ((splitOn '/' name.toList).map String.ofList) = .ok l := by
  obtain ⟨-, hwalk⟩ := locate_eq_ok.1 hl
  rw [Path.join_relative dir h, walk_append_eq_ok] at hwalk
  exact hwalk

/-- **Two relative names that lead to one place are the same.** -/
theorem name_eq_of_locate_relative (hn : IsRelative name) (hn' : IsRelative name')
    (hl : t.locate (dir / name) = .ok l) (hl' : t.locate (dir / name') = .ok l) : name = name' := by
  obtain ⟨d, hd, hwalk⟩ := locate_relative hn hl
  obtain ⟨d', hd', hwalk'⟩ := locate_relative hn' hl'
  cases hd.symm.trans hd'
  exact Path.name_eq_of_components (parts_eq_of_walk hwalk hwalk' (Path.up_not_mem_of_isRelative hn)
    (Path.up_not_mem_of_isRelative hn'))

end FileTree

end Fingerprint
