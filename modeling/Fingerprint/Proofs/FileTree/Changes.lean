/-
What a change of a file tree may come to. A change that writes only what a
predicate allows (`Changes`) takes nothing away, turns nothing into something
of another kind, and makes a directory only where nothing stood. So a walk
that led somewhere still leads there (`Changes.locate`), and changes made one
after another are a change of the same kind (`Changes.trans`).
-/
import Fingerprint.FileTree.Basic
import Fingerprint.Proofs.Entries

namespace Fingerprint.FileTree

variable {t t' t'' : FileTree} {l m : Location} {e : Entry} {p : Path}

/-- The tree with an entry written at a location. -/
def put (t : FileTree) (l : Location) (e : Entry) : FileTree :=
  { t with entries := t.entries.put l e }

theorem isAbove_iff : t.isAbove l = true ↔ l <+: t.current := List.isPrefixOf_iff_prefix

theorem at?_of_isAbove (h : t.isAbove l = true) : t.at? l = some .directory := by
  rw [at?, if_pos h]

theorem isAbove_of_at?_ne (h : t.at? l ≠ some .directory) : t.isAbove l = false :=
  Bool.eq_false_iff.2 fun habove => h (at?_of_isAbove habove)

theorem at?_current (t : FileTree) : t.at? t.current = some .directory :=
  at?_of_isAbove (isAbove_iff.2 (List.prefix_refl _))

theorem isAbove_of_isPrefix (h : t.isAbove m = true) (hl : l <+: m) : t.isAbove l = true :=
  isAbove_iff.2 (hl.trans (isAbove_iff.1 h))

/-- A walk begins in the current directory or above it. -/
theorem isAbove_start (t : FileTree) (p : Path) : t.isAbove (t.start p) = true := by
  unfold start
  split
  · exact isAbove_iff.2 (List.prefix_refl _)
  · rfl

theorem not_isPrefix_start (h : t.at? l ≠ some .directory) (p : Path) : ¬ l <+: t.start p :=
  fun hl => h (at?_of_isAbove (isAbove_of_isPrefix (t.isAbove_start p) hl))

theorem at?_put_self (h : t.isAbove l = false) : (t.put l e).at? l = some e := by
  have habove : (t.put l e).isAbove l = false := h
  rw [at?, habove]
  exact Table.get?_put_self t.entries l e

theorem at?_put_other (h : l ≠ m) : (t.put l e).at? m = t.at? m := by
  have habove : (t.put l e).isAbove m = t.isAbove m := rfl
  rw [at?, at?, habove]
  split
  · rfl
  · exact Table.get?_put_other t.entries h e

theorem put_of_at?_eq (h : t.isAbove l = false) (he : t.at? l = some e) : t.put l e = t := by
  have hget : t.entries.get? l = some e := by
    rwa [at?, if_neg (by simp [h])] at he
  have hput : t.entries.put l e = t.entries := Table.put_of_get?_eq hget
  rw [put, hput]

theorem step_name (l : Location) {part : String} (h : part ≠ "..") : step l part = l ++ [part] :=
  if_neg h

/-- Where a walk begins hangs on the place of the current directory alone. -/
theorem start_congr (h : t'.current = t.current) (p : Path) : t'.start p = t.start p := by
  rw [start, start, h]

theorem walk_append (t : FileTree) (l : Location) (ps qs : List String) :
    t.walk l (ps ++ qs) = (t.walk l ps).bind fun m => t.walk m qs := by
  induction ps generalizing l with
  | nil => rfl
  | cons part ps ih =>
    rw [List.cons_append, walk, walk]
    cases t.at? l with
    | none => rfl
    | some e =>
      cases e with
      | file bytes => rfl
      | directory =>
        simp only
        split
        · rfl
        · exact ih _

theorem walk_append_eq_ok {ps qs : List String} : t.walk l (ps ++ qs) = .ok m ↔
    ∃ k, t.walk l ps = .ok k ∧ t.walk k qs = .ok m := by
  rw [walk_append]
  cases t.walk l ps <;> simp [Except.bind]

theorem walk_of_directory (h : t.at? l = some .directory) (part : String) (rest : List String) :
    t.walk l (part :: rest) =
      if nameLimit < part.utf8ByteSize then .error .nameTooLong
      else t.walk (step l part) rest := by
  rw [walk, h]

theorem walk_singleton_eq_ok {part : String} (h : t.walk l [part] = .ok m) :
    t.at? l = some .directory ∧ step l part = m := by
  rw [walk] at h
  split at h
  next => cases h
  next => cases h
  next hd =>
    split at h
    next => cases h
    next => exact ⟨hd, Except.ok.inj h⟩

theorem locate_eq_ok : t.locate p = .ok l ↔
    p.toString.utf8ByteSize ≤ pathLimit ∧ t.walk (t.start p) p.parts = .ok l := by
  unfold locate
  split
  next h =>
    have hlong : ¬ p.toString.utf8ByteSize ≤ pathLimit := Nat.not_le.2 h
    simp [hlong]
  next h =>
    have hshort : p.toString.utf8ByteSize ≤ pathLimit := Nat.not_lt.1 h
    simp [hshort]

/-- Whether one tree comes from another by writing entries that `P` allows: files over nothing or
over files, and directories over nothing. -/
structure Changes (P : Location → Entry → Prop) (t t' : FileTree) : Prop where
  current : t'.current = t.current
  entry : ∀ l, t'.at? l = t.at? l ∨
    t.at? l ≠ some .directory ∧
      ∃ e, t'.at? l = some e ∧ (e = .directory → t.at? l = none) ∧ P l e

namespace Changes

variable {P Q : Location → Entry → Prop}

theorem refl (P : Location → Entry → Prop) (t : FileTree) : Changes P t t :=
  ⟨rfl, fun _ => .inl rfl⟩

theorem directory (h : Changes P t t') (hl : t.at? l = some .directory) :
    t'.at? l = some .directory := by
  rcases h.entry l with hsame | ⟨hne, -⟩
  · rw [hsame, hl]
  · exact absurd hl hne

theorem file (h : Changes P t t') {bytes : List UInt8} (hl : t.at? l = some (.file bytes)) :
    ∃ bytes', t'.at? l = some (.file bytes') := by
  rcases h.entry l with hsame | ⟨-, e, he, hnew, -⟩
  · exact ⟨bytes, by rw [hsame, hl]⟩
  · cases e with
    | file bytes' => exact ⟨bytes', he⟩
    | directory => rw [hnew rfl] at hl; cases hl

theorem none_of_none (h : Changes P t t') (hl : t'.at? l = none) : t.at? l = none := by
  rcases h.entry l with hsame | ⟨-, e, he, -⟩
  · rw [← hsame, hl]
  · rw [he] at hl
    cases hl

theorem mono (h : Changes P t t') (hPQ : ∀ l e, P l e → Q l e) : Changes Q t t' := by
  refine ⟨h.current, fun l => ?_⟩
  rcases h.entry l with hsame | ⟨hne, e, he, hnew, hP⟩
  · exact .inl hsame
  · exact .inr ⟨hne, e, he, hnew, hPQ l e hP⟩

theorem trans (h : Changes P t t') (h' : Changes P t' t'') : Changes P t t'' := by
  refine ⟨h'.current.trans h.current, fun l => ?_⟩
  rcases h'.entry l with hsame | ⟨hne, e, he, hnew, hP⟩
  · rw [hsame]
    exact h.entry l
  · exact .inr ⟨fun hl => hne (h.directory hl), e, he, fun hd => h.none_of_none (hnew hd), hP⟩

theorem put (hl : t.at? l ≠ some .directory) (he : e = .directory → t.at? l = none)
    (hP : P l e) : Changes P t (t.put l e) := by
  refine ⟨rfl, fun m => ?_⟩
  by_cases hm : l = m
  · subst hm
    exact .inr ⟨hl, e, at?_put_self (isAbove_of_at?_ne hl), he, hP⟩
  · exact .inl (at?_put_other hm)

/-- A walk that led somewhere still leads there: it went through directories only. -/
theorem walk (h : Changes P t t') {ps : List String} (hw : t.walk l ps = .ok m) :
    t'.walk l ps = .ok m := by
  induction ps generalizing l with
  | nil => exact hw
  | cons part ps ih =>
    rw [FileTree.walk] at hw
    split at hw
    next => cases hw
    next => cases hw
    next hd =>
      rw [walk_of_directory (h.directory hd)]
      split at hw
      next => cases hw
      next hshort =>
        rw [if_neg hshort]
        exact ih hw

theorem locate (h : Changes P t t') (hl : t.locate p = .ok l) : t'.locate p = .ok l := by
  obtain ⟨hshort, hwalk⟩ := locate_eq_ok.1 hl
  exact locate_eq_ok.2 ⟨hshort, start_congr h.current p ▸ h.walk hwalk⟩

end Changes

end Fingerprint.FileTree
