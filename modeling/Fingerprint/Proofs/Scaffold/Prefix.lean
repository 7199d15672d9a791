/-
Writing files one after another, under a directory that may be missing. If one
file cannot be written, either none is (`writeFile_eq_error`), or its content
cannot be encoded and the file is left as an empty content would leave it; what
is new besides it are directories on the way to it. So writing several comes to
an end, or stops at the first that cannot be written with those before it in
place and those after it untouched (`writeFiles_prefix`).
-/
import Fingerprint.Proofs.FileTree.Descent
import Fingerprint.Proofs.FileTree.Writes

namespace Fingerprint

/-! ## Paths that hold NUL -/

theorem Path.hasNul_upTo {p : Path} {n : Nat} (h : (p.upTo n).hasNul = true) : p.hasNul = true := by
  obtain ⟨part, hpart, hnul⟩ := List.any_eq_true.1 h
  exact List.any_eq_true.2 ⟨part, List.mem_of_mem_take hpart, hnul⟩

theorem Path.hasNul_parent {p : Path} (h : p.parent.hasNul = true) : p.hasNul = true := by
  obtain ⟨part, hpart, hnul⟩ := List.any_eq_true.1 h
  exact List.any_eq_true.2 ⟨part, List.dropLast_subset _ hpart, hnul⟩

namespace FileTree

variable {t t' : FileTree} {p : Path} {e : FileError} {bytes : List UInt8}

/-- Whether an operation was refused, and not called with a path that is no path. -/
def IsRefusal (e : FileError) : Prop := ∃ why p, e = .refused why p

theorem isRefusal_iff : IsRefusal e ↔ e ≠ .nulInPath := by
  cases e <;> simp [IsRefusal]

theorem isRefusal_of_makeDirectory (h : t.makeDirectory p = .error e) (hnul : p.hasNul = false) :
    IsRefusal e := by
  rw [makeDirectory, hnul] at h
  simp only [Bool.false_eq_true, if_false] at h
  split at h
  next => exact ⟨_, _, (Except.error.inj h).symm⟩
  next =>
    split at h
    next => exact ⟨_, _, (Except.error.inj h).symm⟩
    next => cases h

theorem isRefusal_of_ensureDirectory (h : (t.ensureDirectory p).2 = .error e)
    (hnul : p.hasNul = false) : IsRefusal e := by
  unfold ensureDirectory at h
  split at h
  next => cases h
  next e' hmake =>
    have hrefused := isRefusal_of_makeDirectory hmake hnul
    split at h
    next => exact Except.error.inj h ▸ hrefused
    next =>
      split at h
      next => cases h
      next => exact Except.error.inj h ▸ hrefused

theorem isRefusal_of_ensureDirectories {n : Nat} (h : (t.ensureDirectories p n).2 = .error e)
    (hnul : p.hasNul = false) : IsRefusal e := by
  have hbegin : ∀ k, (p.upTo k).hasNul = false := fun k =>
    Bool.eq_false_iff.2 fun hk => by rw [Path.hasNul_upTo hk] at hnul; cases hnul
  induction n generalizing t e with
  | zero => exact isRefusal_of_ensureDirectory h (hbegin 0)
  | succ n ih =>
    rw [ensureDirectories] at h
    split at h
    next =>
      split at h
      next => exact isRefusal_of_ensureDirectory h (hbegin (n + 1))
      next => exact ih h
    next => exact isRefusal_of_ensureDirectory h (hbegin (n + 1))

theorem isRefusal_of_write (h : t.write p bytes = .error e) (hnul : p.hasNul = false) :
    IsRefusal e := by
  rw [write, hnul] at h
  simp only [Bool.false_eq_true, if_false] at h
  split at h
  next => exact ⟨_, _, (Except.error.inj h).symm⟩
  next =>
    split at h
    next => exact ⟨_, _, (Except.error.inj h).symm⟩
    next => cases h

end FileTree

namespace Scaffold

open FileTree Text

section

variable {α : Type} {t t' : FileTree} {dir target : Path} {l : Location}
  {files rest : List (String × α)} {f : String × α} {content : α} {bytes : List UInt8}
  {fault : EncodingFault}

/-! ## Directories on the way -/

/-- What writing files may make on the way: directories above them. -/
def IsAbove (t : FileTree) (dir : Path) (files : List (String × α)) (l : Location)
    (e : Entry) : Prop :=
  ∃ f ∈ files, IsOnPath t (dir / f.1).parent l e

theorem eq_directory_of_isAbove {e : Entry} (h : IsAbove t dir files l e) : e = .directory := by
  obtain ⟨f, -, hd, -⟩ := h
  exact hd

theorem isAbove_of_subset {files' : List (String × α)} (h : files ⊆ files') {e : Entry}
    (ha : IsAbove t dir files l e) : IsAbove t dir files' l e := by
  obtain ⟨f, hf, hl⟩ := ha
  exact ⟨f, h hf, hl⟩

theorem changes_makeParent (t : FileTree) (dir : Path) (f : String × α) :
    Changes (IsAbove (t.makePath (dir / f.1).parent).1 dir [f]) t
      (t.makePath (dir / f.1).parent).1 :=
  (changes_makePath t _).mono fun _ _ hl => ⟨f, List.mem_singleton_self f, hl⟩

/-! ## One file -/

variable [Content α]

theorem writtenBytes_of_bytes (h : Content.encode content = .ok bytes) :
    writtenBytes content = bytes := by
  rw [writtenBytes, h]
  rfl

theorem writtenBytes_of_fault (h : Content.encode content = .error fault) :
    writtenBytes content = [] := by
  rw [writtenBytes, h]
  rfl

theorem writeFile_eq_ok (h : writeFile t target content = (t', .ok ())) :
    (∃ bytes, Content.encode content = .ok bytes) ∧ target.hasNul = false ∧
      ∃ l, (t.makePath target.parent).1.locate target = .ok l ∧
        (t.makePath target.parent).1.at? l ≠ some .directory ∧
        t' = (t.makePath target.parent).1.put l (written content) := by
  unfold writeFile at h
  rcases hmade : t.makePath target.parent with ⟨made, e | u⟩
  · simp only [hmade] at h
    cases h
  · simp only [hmade] at h
    cases hwrite : made.write target (writtenBytes content) with
    | error e =>
      simp only [hwrite] at h
      cases h
    | ok opened =>
      obtain ⟨hnul, l, hl, hfile, hput⟩ := write_eq_ok.1 hwrite
      cases hencode : Content.encode content with
      | error fault =>
        simp only [hwrite, hencode] at h
        cases h
      | ok bytes =>
        simp only [hwrite, hencode] at h
        cases h
        exact ⟨⟨bytes, rfl⟩, hnul, l, hl, hfile, hput⟩

/-- **Where a file cannot be written, either none is**, and the directories above it have been made
as far as they could; **or its content cannot be encoded**, and the file is as if nothing was to be
written. -/
theorem writeFile_eq_error {e : WriteError} (h : writeFile t target content = (t', .error e)) :
    e.target = target ∧
      ((∃ error, e.error = .file error ∧ (target.hasNul = false → IsRefusal error) ∧
          t' = (t.makePath target.parent).1) ∨
        ∃ fault, e.error = .encoding fault ∧ Content.encode content = .error fault ∧
          writeFile t target ([] : WideText) = (t', .ok ())) := by
  have hparent : target.hasNul = false → target.parent.hasNul = false := fun h =>
    Bool.eq_false_iff.2 fun hp => by rw [Path.hasNul_parent hp] at h; cases h
  unfold writeFile at h
  rcases hmade : t.makePath target.parent with ⟨made, error | u⟩
  · simp only [hmade] at h
    cases h
    exact ⟨rfl, .inl ⟨error, rfl, fun hnul =>
      isRefusal_of_ensureDirectories (congrArg Prod.snd hmade) (hparent hnul), rfl⟩⟩
  · simp only [hmade] at h
    cases hwrite : made.write target (writtenBytes content) with
    | error error =>
      simp only [hwrite] at h
      cases h
      exact ⟨rfl, .inl ⟨error, rfl, isRefusal_of_write hwrite, rfl⟩⟩
    | ok opened =>
      cases hencode : Content.encode content with
      | error fault =>
        simp only [hwrite, hencode] at h
        cases h
        have hempty : made.write target (writtenBytes ([] : WideText)) = .ok t' := by
          rwa [writtenBytes_of_fault hencode] at hwrite
        refine ⟨rfl, .inr ⟨fault, rfl, rfl, ?_⟩⟩
        simp only [writeFile, hmade, hempty]
        rfl
      | ok bytes =>
        simp only [hwrite, hencode] at h
        cases h

theorem changes_of_writeFile (h : writeFile t (dir / f.1) f.2 = (t', .ok ())) :
    Changes (fun l e => IsWritten t' dir [f] l e ∨ IsAbove t' dir [f] l e) t t' ∧
      Holds t' dir [f] := by
  obtain ⟨-, -, l, hl, hfile, rfl⟩ := writeFile_eq_ok h
  have hwrite := changes_put_written hfile f.2
  have hself := hwrite.locate hl
  have habove := (changes_makePath t _).mono fun m e hm =>
    (⟨f, List.mem_singleton_self f, hwrite.isOnPath hm⟩ : IsAbove _ dir [f] m e)
  refine ⟨.trans (habove.mono fun m e => .inr) (hwrite.mono ?_),
    List.forall_mem_singleton.2 ⟨l, hself, at?_put_self (isAbove_of_at?_ne hfile)⟩⟩
  rintro m e ⟨rfl, rfl⟩
  exact .inl ⟨f, List.mem_singleton_self f, hself, rfl⟩

/-! ## Several files -/

/-- What was written, or made on the way, is still known by the same paths after a change. -/
theorem isLaid_of_changes {P : Location → Entry → Prop} (h : Changes P t t') {e : Entry}
    (hl : IsWritten t dir files l e ∨ IsAbove t dir files l e) :
    IsWritten t' dir files l e ∨ IsAbove t' dir files l e := by
  rcases hl with ⟨f, hf, hw, he⟩ | ⟨f, hf, ha⟩
  · exact .inl ⟨f, hf, h.locate hw, he⟩
  · exact .inr ⟨f, hf, h.isOnPath ha⟩

theorem isLaid_of_subset {files' : List (String × α)} (h : files ⊆ files') {e : Entry}
    (hl : IsWritten t dir files l e ∨ IsAbove t dir files l e) :
    IsWritten t dir files' l e ∨ IsAbove t dir files' l e :=
  hl.imp (isWritten_of_subset h) (isAbove_of_subset h)

theorem holds_of_laid {others : List (String × α)} (hn : ∀ f ∈ files, IsRelative f.1)
    (hn' : ∀ g ∈ others, IsRelative g.1) (hother : ∀ f ∈ files, ∀ g ∈ others, f.1 ≠ g.1)
    (hc : Changes (fun l e => IsWritten t' dir others l e ∨ e = .directory) t t')
    (h : Holds t dir files) : Holds t' dir files := by
  intro f hf
  obtain ⟨l, hl, hheld⟩ := h f hf
  refine ⟨l, hc.locate hl, ?_⟩
  rcases hc.entry l with hsame | ⟨-, e, -, hnew, ⟨g, hg, hgl, -⟩ | rfl⟩
  · exact hsame.trans hheld
  · exact absurd (name_eq_of_locate_relative (hn f hf) (hn' g hg) (hc.locate hl) hgl)
      (hother f hf g hg)
  · rw [hnew rfl] at hheld
    cases hheld

theorem tree_writeFiles_cons (hf : writeFile t (dir / f.1) f.2 = (t', .ok ()))
    (rest : List (String × α)) :
    (writeFiles t dir (f :: rest)).1 = (writeFiles t' dir rest).1 := by
  simp only [writeFiles, hf]

theorem outcome_writeFiles_cons (hf : writeFile t (dir / f.1) f.2 = (t', .ok ()))
    (rest : List (String × α)) : (writeFiles t dir (f :: rest)).2.outcome =
      (writeFiles t' dir rest).2.outcome.map ((dir / f.1) :: ·) := by
  simp only [writeFiles, hf, Traced.outcome_bind, Traced.outcome_report, Traced.outcome_pure]
  cases (writeFiles t' dir rest).2.outcome <;> rfl

/-- **Writing files comes to an end or stops at the first that cannot be written**; what comes
before this one is written as it would be alone. -/
theorem writeFiles_eq_or (t : FileTree) (dir : Path) (files : List (String × α)) :
    (writeFiles t dir files).2.outcome = .ok (files.map fun f => dir / f.1) ∨
      ∃ done f rest e, files = done ++ f :: rest ∧
        (writeFiles t dir done).2.outcome = .ok (done.map fun f => dir / f.1) ∧
        writeFile (writeFiles t dir done).1 (dir / f.1) f.2 = ((writeFiles t dir files).1, .error e) ∧
        (writeFiles t dir files).2.outcome = .error e := by
  induction files generalizing t with
  | nil => exact .inl rfl
  | cons f files ih =>
    rcases hf : writeFile t (dir / f.1) f.2 with ⟨t', e | u⟩
    · refine .inr ⟨[], f, files, e, rfl, rfl, ?_, ?_⟩
      · simp only [writeFiles, hf]
      · simp only [writeFiles, hf, Traced.outcome_fail]
    · rcases ih t' with hok | ⟨done, g, rest, e, rfl, hdone, hstop, herror⟩
      · left
        rw [outcome_writeFiles_cons hf, hok]
        rfl
      · refine .inr ⟨f :: done, g, rest, e, rfl, ?_, ?_, ?_⟩
        · rw [outcome_writeFiles_cons hf, hdone]
          rfl
        · rw [tree_writeFiles_cons hf, tree_writeFiles_cons hf, hstop]
        · rw [outcome_writeFiles_cons hf, herror]
          rfl

/-- One more file is written after several. -/
theorem writeFiles_concat {paths : List Path} (h : (writeFiles t dir files).2.outcome = .ok paths)
    (hf : writeFile (writeFiles t dir files).1 (dir / f.1) f.2 = (t', .ok ())) :
    (writeFiles t dir (files ++ [f])).1 = t' ∧
      ∃ paths, (writeFiles t dir (files ++ [f])).2.outcome = .ok paths := by
  induction files generalizing t paths with
  | nil =>
    have hfirst : writeFile t (dir / f.1) f.2 = (t', .ok ()) := hf
    exact ⟨tree_writeFiles_cons hfirst [], _, outcome_writeFiles_cons hfirst []⟩
  | cons g files ih =>
    rcases hg : writeFile t (dir / g.1) g.2 with ⟨made, e | u⟩
    · simp only [writeFiles, hg, Traced.outcome_fail] at h
      cases h
    · rw [outcome_writeFiles_cons hg] at h
      rw [tree_writeFiles_cons hg] at hf
      cases hrest : (writeFiles made dir files).2.outcome with
      | error e =>
        rw [hrest] at h
        cases h
      | ok paths =>
        obtain ⟨htree, paths', hpaths⟩ := ih hrest hf
        rw [List.cons_append, tree_writeFiles_cons hg, outcome_writeFiles_cons hg, hpaths]
        exact ⟨htree, _, rfl⟩

/-- **Where writing comes to an end each file holds its content**, and what else is new is above one
of them. -/
theorem holds_of_writeFiles {paths : List Path} (hn : ∀ f ∈ files, IsRelative f.1)
    (hdistinct : (files.map Prod.fst).Nodup) (h : (writeFiles t dir files).2.outcome = .ok paths) :
    Changes (fun l e => IsWritten (writeFiles t dir files).1 dir files l e ∨
        IsAbove (writeFiles t dir files).1 dir files l e) t (writeFiles t dir files).1 ∧
      Holds (writeFiles t dir files).1 dir files ∧
      ∀ f ∈ files, (dir / f.1).hasNul = false ∧ ∃ bytes, Content.encode f.2 = .ok bytes := by
  induction files generalizing t paths with
  | nil => exact ⟨.refl _ t, nofun, nofun⟩
  | cons f files ih =>
    rw [List.forall_mem_cons] at hn
    rw [List.map_cons, List.nodup_cons] at hdistinct
    rcases hf : writeFile t (dir / f.1) f.2 with ⟨t', e | u⟩
    · rw [writeFiles, hf] at h
      cases h
    · obtain ⟨hencode, hnul, -⟩ := writeFile_eq_ok hf
      obtain ⟨hfirst, hheld⟩ := changes_of_writeFile hf
      rw [tree_writeFiles_cons hf]
      rw [outcome_writeFiles_cons hf] at h
      obtain ⟨paths', hpaths⟩ : ∃ paths', (writeFiles t' dir files).2.outcome = .ok paths' := by
        cases hrest : (writeFiles t' dir files).2.outcome with
        | error e =>
          rw [hrest] at h
          cases h
        | ok paths' => exact ⟨paths', rfl⟩
      obtain ⟨hrest, hothers, hsound⟩ := ih hn.2 hdistinct.2 hpaths
      have hname : ∀ g ∈ [f], ∀ k ∈ files, g.1 ≠ k.1 := by
        intro g hg k hk hname
        rw [List.mem_singleton.1 hg] at hname
        exact hdistinct.1 (List.mem_map.2 ⟨k, hk, hname.symm⟩)
      have hkept := holds_of_laid (List.forall_mem_singleton.2 hn.1) hn.2 hname
        (hrest.mono fun l e => .imp_right eq_directory_of_isAbove) hheld
      have hhead : [f] ⊆ f :: files := List.cons_subset_cons f (List.nil_subset files)
      have hnow := hfirst.mono fun l e hl => isLaid_of_subset hhead (isLaid_of_changes hrest hl)
      have hlater := hrest.mono fun l e => isLaid_of_subset (List.subset_cons_self f files)
      exact ⟨hnow.trans hlater, List.forall_mem_cons.2 ⟨hkept f (List.mem_singleton_self f), hothers⟩,
        List.forall_mem_cons.2 ⟨⟨hnul, hencode⟩, hsound⟩⟩

/-! ## What has become of a tree -/

/-- Whether files have been written and nothing else has changed, but that directories may have been
made above others: each file holds its content in UTF-8, everywhere else a file stands where one
with the same content stood, and directories stand where they stood or on the way to those. -/
structure HasWritten (t t' : FileTree) (dir : Path) (files above : List (String × α)) : Prop where
  held : ∀ f ∈ files, ∃ bytes, Content.encode f.2 = .ok bytes ∧ t'.read (dir / f.1) = .ok bytes
  others : ∀ l, (∀ f ∈ files, t'.locate (dir / f.1) ≠ .ok l) → ∀ bytes,
    t'.at? l = some (.file bytes) ↔ t.at? l = some (.file bytes)
  stays : ∀ l, t.at? l = some .directory → t'.at? l = some .directory
  made : ∀ l, t'.at? l = some .directory → t.at? l = some .directory ∨
    t.at? l = none ∧ ∃ f ∈ above, ∃ n, t'.locate ((dir / f.1).parent.upTo n) = .ok l

/-- Whether the places of files are as they were: each holds what it held, or none. -/
def Untouched (t t' : FileTree) (dir : Path) (files : List (String × α)) : Prop :=
  ∀ f ∈ files, ∀ l, t'.locate (dir / f.1) = .ok l → ∀ bytes,
    t'.at? l = some (.file bytes) ↔ t.at? l = some (.file bytes)

theorem hasWritten_of_changes {above : List (String × α)}
    (hc : Changes (fun l e => IsWritten t' dir files l e ∨ IsAbove t' dir above l e) t t')
    (hheld : Holds t' dir files)
    (hsound : ∀ f ∈ files, (dir / f.1).hasNul = false ∧ ∃ bytes, Content.encode f.2 = .ok bytes) :
    HasWritten t t' dir files above where
  held f hf := by
    obtain ⟨l, hl, hhere⟩ := hheld f hf
    obtain ⟨hnul, bytes, hbytes⟩ := hsound f hf
    refine ⟨bytes, hbytes, ?_⟩
    simp only [FileTree.read, hnul, find_eq_ok.2 ⟨l, hl, hhere⟩, written,
      writtenBytes_of_bytes hbytes]
    rfl
  others l hother bytes := by
    rcases hc.entry l with hsame | ⟨-, e, he, hnew, ⟨f, hf, hl, -⟩ | ⟨f, -, rfl, -⟩⟩
    · rw [hsame]
    · exact absurd hl (hother f hf)
    · simp [he, hnew rfl]
  stays l := hc.directory
  made l hl := by
    rcases hc.entry l with hsame | ⟨-, e, he, hnew, ⟨f, -, -, rfl⟩ | ⟨f, hf, rfl, n, hn⟩⟩
    · exact .inl (hsame ▸ hl)
    · cases he.symm.trans hl
    · exact .inr ⟨hnew rfl, f, hf, n, hn⟩

theorem HasWritten.untouched {above : List (String × α)} (h : HasWritten t t' dir files above)
    (hn : ∀ f ∈ files, IsRelative f.1) (hn' : ∀ g ∈ rest, IsRelative g.1)
    (hother : ∀ f ∈ files, ∀ g ∈ rest, f.1 ≠ g.1) : Untouched t t' dir rest :=
  fun g hg l hl => h.others l fun f hf hfl =>
    hother f hf g hg (name_eq_of_locate_relative (hn f hf) (hn' g hg) hfl hl)

/-- Where writing has come to an end and one more file could not be opened, what was written before
is all that is written. -/
theorem hasWritten_of_stop {paths : List Path} (hn : ∀ f ∈ files, IsRelative f.1)
    (hdistinct : (files.map Prod.fst).Nodup) (h : (writeFiles t dir files).2.outcome = .ok paths)
    (hstop : t' = ((writeFiles t dir files).1.makePath (dir / f.1).parent).1) :
    HasWritten t t' dir files (files ++ [f]) := by
  obtain ⟨hc, hheld, hsound⟩ := holds_of_writeFiles hn hdistinct h
  have hlast := changes_makeParent (writeFiles t dir files).1 dir f
  rw [← hstop] at hlast
  have hdirectories := hlast.mono fun l e ha =>
    (.inr (eq_directory_of_isAbove ha) : IsWritten t' dir ([] : List (String × α)) l e ∨ _)
  have hkept : Holds t' dir files :=
    holds_of_laid hn (List.forall_mem_nil _) (fun _ _ => List.forall_mem_nil _) hdirectories hheld
  have hbefore := hc.mono fun l e hl =>
    (isLaid_of_changes hlast hl).imp_right (isAbove_of_subset (List.subset_append_left files [f]))
  have hafter := hlast.mono fun l e hl =>
    (.inr (isAbove_of_subset (List.subset_append_right files [f]) hl) :
      IsWritten t' dir files l e ∨ _)
  exact hasWritten_of_changes (hbefore.trans hafter) hkept hsound

theorem hasWritten_concat {paths : List Path} (hn : ∀ g ∈ files ++ [f], IsRelative g.1)
    (hdistinct : ((files ++ [f]).map Prod.fst).Nodup)
    (h : (writeFiles t dir files).2.outcome = .ok paths)
    (hf : writeFile (writeFiles t dir files).1 (dir / f.1) f.2 = (t', .ok ())) :
    HasWritten t t' dir (files ++ [f]) (files ++ [f]) := by
  obtain ⟨htree, paths', hpaths⟩ := writeFiles_concat h hf
  obtain ⟨hc, hheld, hsound⟩ := holds_of_writeFiles hn hdistinct hpaths
  rw [htree] at hc hheld
  exact hasWritten_of_changes hc hheld hsound

end

/-- **What is written is a prefix.** Either every file is written, and their paths are given in
order; or there is a first file that is not, those before it are written, and the failure names it.
Then an operation on it failed, its own place and those of all after it are as they were, and the
failure is a refusal unless the path holds NUL; or its content cannot be encoded, and it is there
with no content, and the places of all after it are as they were. -/
theorem writeFiles_prefix (t : FileTree) (dir : Path) {files : List (String × WideText)}
    (hn : ∀ f ∈ files, IsRelative f.1) (hdistinct : (files.map Prod.fst).Nodup) :
    ((writeFiles t dir files).2.outcome = .ok (files.map fun f => dir / f.1) ∧
      HasWritten t (writeFiles t dir files).1 dir files files) ∨
    ∃ done f rest e, files = done ++ f :: rest ∧ (writeFiles t dir files).2.outcome = .error e ∧
      e.target = dir / f.1 ∧
      ((∃ error, e.error = .file error ∧ ((dir / f.1).hasNul = false → IsRefusal error) ∧
          HasWritten t (writeFiles t dir files).1 dir done (done ++ [f]) ∧
          Untouched t (writeFiles t dir files).1 dir (f :: rest)) ∨
        ∃ fault, e.error = .encoding fault ∧ Content.encode f.2 = .error fault ∧
          HasWritten t (writeFiles t dir files).1 dir (done ++ [(f.1, [])]) (done ++ [(f.1, [])]) ∧
          Untouched t (writeFiles t dir files).1 dir rest) := by
  rcases writeFiles_eq_or t dir files with hok | ⟨done, f, rest, e, hsplit, hdone, hstop, herror⟩
  · obtain ⟨hc, hheld, hsound⟩ := holds_of_writeFiles hn hdistinct hok
    exact .inl ⟨hok, hasWritten_of_changes hc hheld hsound⟩
  · right
    generalize (writeFiles t dir files).1 = t' at hstop ⊢
    rw [hsplit, List.forall_mem_append] at hn
    have hthrough : ((done ++ [f] ++ rest).map Prod.fst).Nodup := by
      rwa [← List.append_cons, ← hsplit]
    rw [hsplit, List.map_append, List.nodup_append] at hdistinct
    obtain ⟨hbefore, -, hapart⟩ := hdistinct
    have hother : ∀ g ∈ done, ∀ k ∈ f :: rest, g.1 ≠ k.1 := fun g hg k hk =>
      hapart g.1 (List.mem_map_of_mem hg) k.1 (List.mem_map_of_mem hk)
    refine ⟨done, f, rest, e, hsplit, herror, ?_⟩
    obtain ⟨htarget, ⟨error, he, hrefused, htree⟩ | ⟨fault, he, hencode, hempty⟩⟩ :=
      writeFile_eq_error hstop
    · have hw := hasWritten_of_stop hn.1 hbefore hdone htree
      exact ⟨htarget, .inl ⟨error, he, hrefused, hw, hw.untouched hn.1 hn.2 hother⟩⟩
    · -- The tree is the one in which an empty content has been written.
      have hnames : (done ++ [(f.1, ([] : WideText))]).map Prod.fst = (done ++ [f]).map Prod.fst := by
        simp
      have hn' : ∀ g ∈ done ++ [(f.1, ([] : WideText))], IsRelative g.1 :=
        List.forall_mem_append.2 ⟨hn.1, List.forall_mem_singleton.2 (hn.2 f List.mem_cons_self)⟩
      rw [List.map_append, List.nodup_append, ← hnames] at hthrough
      obtain ⟨hdistinct', -, hapart'⟩ := hthrough
      have hother' : ∀ g ∈ done ++ [(f.1, [])], ∀ k ∈ rest, g.1 ≠ k.1 := fun g hg k hk =>
        hapart' g.1 (List.mem_map_of_mem hg) k.1 (List.mem_map_of_mem hk)
      have hrest : ∀ g ∈ rest, IsRelative g.1 := fun g hg => hn.2 g (List.mem_cons_of_mem f hg)
      have hw := hasWritten_concat (f := (f.1, [])) hn' hdistinct' hdone hempty
      exact ⟨htarget, .inr ⟨fault, he, hencode, hw, hw.untouched hn' hrest hother'⟩⟩

/-- Texts without surrogates are written as what they are. -/
theorem writeFiles_wide (t : FileTree) (dir : Path) (files : List (String × String)) :
    writeFiles t dir (files.map fun f => (f.1, wide f.2)) = writeFiles t dir files := by
  induction files generalizing t with
  | nil => rfl
  | cons f files ih =>
    have hone : writeFile t (dir / f.1) (wide f.2) = writeFile t (dir / f.1) f.2 := by
      rw [writeFile, writeFile, writtenBytes, writtenBytes, encode_wide]
    rw [List.map_cons, writeFiles, writeFiles, hone]
    rcases writeFile t (dir / f.1) f.2 with ⟨t', e | u⟩
    · rfl
    · simp only [ih]

/-- A directory with two files. -/
def twoFileTree : FileTree where
  entries := Table.ofList [(["a"], .file []), (["keep"], .file [0x6B])]

/-- Files of which one would have to stand below another. -/
def crossedFiles : List (String × WideText) :=
  [("b/c", wide "1"), ("a", wide "2"), ("a/d", wide "3"), ("keep", wide "4")]

/-- Of these files two are written, one of them over another and one in a new directory. -/
theorem writeFiles_prefix_crossed :
    (∀ f ∈ crossedFiles, IsRelative f.1) ∧ (crossedFiles.map Prod.fst).Nodup ∧
      ∃ done f rest, crossedFiles = done ++ f :: rest ∧ f.1 = "a/d" ∧
        HasWritten twoFileTree (writeFiles twoFileTree Path.here crossedFiles).1 Path.here done
          (done ++ [f]) := by
  have hn : ∀ f ∈ crossedFiles, IsRelative f.1 := by decide +kernel
  have hdistinct : (crossedFiles.map Prod.fst).Nodup := by decide +kernel
  have hstop : (writeFiles twoFileTree Path.here crossedFiles).2.outcome =
      .error ⟨⟨"", ["a", "d"]⟩, .file (.refused .alreadyExists ⟨"", ["a"]⟩)⟩ := by decide +kernel
  have hname : ∀ f ∈ crossedFiles, Path.here / f.1 = ⟨"", ["a", "d"]⟩ → f.1 = "a/d" := by
    decide +kernel
  refine ⟨hn, hdistinct, ?_⟩
  obtain ⟨hok, -⟩ | ⟨done, f, rest, e, hsplit, herror, htarget, ⟨-, -, -, hw, -⟩ | ⟨fault, he, -⟩⟩ :=
    writeFiles_prefix twoFileTree Path.here hn hdistinct
  · cases hstop.symm.trans hok
  · cases hstop.symm.trans herror
    exact ⟨done, f, rest, hsplit, hname f (by simp [hsplit]) htarget.symm, hw⟩
  · cases hstop.symm.trans herror
    cases he

/-- A file whose content is a lone surrogate. -/
def brokenFiles : List (String × WideText) := [("keep", [.surrogate 0])]

/-- Two failures are no refusals. With a name that holds NUL the operation is called with a path
that is no path; with a content that cannot be encoded, the file has lost the content it had. -/
theorem writeFiles_unforeseen :
    IsRelative "a\x00b" ∧ IsRelative "keep" ∧
      (writeFiles (FileTree.empty "work") Path.here [("a\x00b", wide "x")]).2.outcome =
        .error ⟨⟨"", ["a\x00b"]⟩, .file .nulInPath⟩ ∧ ¬ IsRefusal .nulInPath ∧
      (writeFiles twoFileTree Path.here brokenFiles).2.outcome =
        .error ⟨⟨"", ["keep"]⟩, .encoding ⟨0, 0, []⟩⟩ ∧
      twoFileTree.read ⟨"", ["keep"]⟩ = .ok [0x6B] ∧
      (writeFiles twoFileTree Path.here brokenFiles).1.read ⟨"", ["keep"]⟩ = .ok [] :=
  ⟨by decide +kernel, by decide +kernel, by decide +kernel, fun h => isRefusal_iff.1 h rfl,
    by decide +kernel, by decide +kernel, by decide +kernel⟩

end Scaffold

end Fingerprint
