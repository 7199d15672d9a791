/-
Writing files into a directory that is there. Whether it comes to an end or
stops half way, only files of the given names are written, directly in the
directory (`changes_writeFiles`). Where it comes to an end each of them holds
its text (`holds_writeFiles`), and writing the same once more changes nothing
(`writeFiles_of_holds`).
-/
import Fingerprint.Proofs.FileTree.Directories
import Fingerprint.Scaffold.Write

namespace Fingerprint

namespace FileTree

variable {t t' : FileTree} {dir p : Path} {d l : Location} {name : String} {bytes : List UInt8}

/-- A name in a directory stands below it, under this name. -/
theorem eq_append_of_locate_join (hn : IsName name) (hd : t.locate dir = .ok d)
    (hl : t.locate (dir / name) = .ok l) : l = d ++ [name] := by
  obtain ⟨-, hdir⟩ := locate_eq_ok.1 hd
  obtain ⟨-, hwalk⟩ := locate_eq_ok.1 hl
  obtain ⟨d', hd', -, hend⟩ := exists_of_walk_join hn hwalk
  cases hdir.symm.trans hd'
  exact hend

theorem name_eq_of_locate_join {name' : String} (hn : IsName name) (hn' : IsName name')
    (hd : t.locate dir = .ok d) (hl : t.locate (dir / name) = .ok l)
    (hl' : t.locate (dir / name') = .ok l) : name = name' := by
  have h := eq_append_of_locate_join hn hd hl
  have h' := eq_append_of_locate_join hn' hd hl'
  simpa using h.symm.trans h'

/-- A name in a directory leads to the same place before and after a change. -/
theorem Changes.locate_join {P : Location → Entry → Prop} (h : Changes P t t')
    (hdir : t.isDirectory dir = true) {name : String} (hn : IsName name) :
    t'.locate (dir / name) = t.locate (dir / name) := by
  obtain ⟨-, d, hl, hd⟩ := isDirectory_iff.1 hdir
  obtain ⟨-, hw⟩ := locate_eq_ok.1 hl
  have hw' : t'.walk (t'.start dir) dir.parts = .ok d := start_congr h.current dir ▸ h.walk hw
  rw [FileTree.locate, FileTree.locate, walk_join_of_directory hn hw hd,
    walk_join_of_directory hn hw' (h.directory hd)]

theorem at?_eq_none_of_pathExists {name : String} (hdir : t.isDirectory dir = true)
    (hn : IsName name) (h : t.pathExists (dir / name) = false)
    (hl : t.locate (dir / name) = .ok l) : t.at? l = none := by
  cases he : t.at? l with
  | none => rfl
  | some e =>
    have hthere := pathExists_iff.2 ⟨hasNul_join_of_isDirectory hdir hn, l, e, hl, he⟩
    rw [hthere] at h
    cases h

theorem write_eq_ok : t.write p bytes = .ok t' ↔
    p.hasNul = false ∧ ∃ l, t.locate p = .ok l ∧ t.at? l ≠ some .directory ∧
      t' = t.put l (.file bytes) := by
  unfold write
  cases p.hasNul with
  | true => simp
  | false =>
    cases t.locate p with
    | error why => simp
    | ok l =>
      cases h : t.at? l with
      | none => simp [h, put, eq_comm]
      | some e => cases e <;> simp [h, put, eq_comm]

end FileTree

namespace Scaffold

open FileTree Text

variable {α : Type} [Content α] {t t' : FileTree} {dir : Path} {d l : Location} {name : String}

/-- What stands in a file after a content has been written to it. -/
def written (content : α) : Entry := .file (writtenBytes content)

theorem changes_put_written (h : t.at? l ≠ some .directory) (content : α) :
    Changes (fun m e => m = l ∧ e = written content) t (t.put l (written content)) :=
  .put h nofun ⟨rfl, rfl⟩

theorem writeFile_of_isDirectory (hd : t.isDirectory dir = true) (hn : IsName name)
    (content : String) : writeFile t (dir / name) content =
      match t.write (dir / name) (Utf8.encode content.toList) with
      | .error e => (t, .error ⟨dir / name, .file e⟩)
      | .ok t' => (t', .ok ()) := by
  have hmade : t.makePath (dir / name).parent = (t, .ok ()) := by
    rw [Path.parent_join_name dir hn, makePath_of_isDirectory hd]
  have hbytes : writtenBytes content = Utf8.encode content.toList := rfl
  have hencode : Content.encode content = .ok (Utf8.encode content.toList) := rfl
  simp only [writeFile, hmade, hbytes, hencode]
  cases t.write (dir / name) (Utf8.encode content.toList) <;> rfl

/-- Either nothing is written and that is an error, or one file is. -/
theorem writeFile_cases (hd : t.isDirectory dir = true) (hn : IsName name) (content : String) :
    (∃ e, writeFile t (dir / name) content = (t, .error e)) ∨
      ∃ l, t.locate (dir / name) = .ok l ∧ t.at? l ≠ some .directory ∧
        writeFile t (dir / name) content = (t.put l (written content), .ok ()) := by
  rw [writeFile_of_isDirectory hd hn]
  cases h : t.write (dir / name) (Utf8.encode content.toList) with
  | error e => exact .inl ⟨_, rfl⟩
  | ok t' =>
    obtain ⟨-, l, hl, hfile, rfl⟩ := write_eq_ok.1 h
    exact .inr ⟨l, hl, hfile, rfl⟩

/-- What writing files into a directory writes: the files, at their names. -/
def IsWritten (t : FileTree) (dir : Path) (files : List (String × α)) (l : Location)
    (e : Entry) : Prop :=
  ∃ f ∈ files, t.locate (dir / f.1) = .ok l ∧ e = written f.2

/-- Whether each file is there with its content. -/
def Holds (t : FileTree) (dir : Path) (files : List (String × α)) : Prop :=
  ∀ f ∈ files, ∃ l, t.locate (dir / f.1) = .ok l ∧ t.at? l = some (written f.2)

theorem isWritten_of_subset {files files' : List (String × α)} (h : files ⊆ files')
    {e : Entry} (hw : IsWritten t dir files l e) : IsWritten t dir files' l e := by
  obtain ⟨f, hf, hl⟩ := hw
  exact ⟨f, h hf, hl⟩

/-- **Only the given files are written**, and only directly in the directory. -/
theorem changes_writeFiles {files : List (String × String)} (hd : t.isDirectory dir = true)
    (hn : ∀ f ∈ files, IsName f.1) :
    Changes (IsWritten (writeFiles t dir files).1 dir files) t (writeFiles t dir files).1 := by
  induction files generalizing t with
  | nil => exact .refl _ t
  | cons f rest ih =>
    rw [List.forall_mem_cons] at hn
    rw [writeFiles]
    rcases writeFile_cases hd hn.1 f.2 with ⟨e, he⟩ | ⟨l, hl, hfile, he⟩
    · rw [he]
      exact .refl _ t
    · rw [he]
      have hput := changes_put_written hfile f.2
      have hrest := ih (hput.isDirectory hd) hn.2
      refine .trans (hput.mono ?_) (hrest.mono fun l e => isWritten_of_subset (by simp))
      rintro m e ⟨rfl, rfl⟩
      exact ⟨f, by simp, hrest.locate (hput.locate hl), rfl⟩

theorem pathExists_of_holds {files : List (String × String)} {f : String × String}
    (hd : t.isDirectory dir = true) (hn : IsName f.1) (h : Holds t dir files) (hf : f ∈ files) :
    t.pathExists (dir / f.1) = true := by
  obtain ⟨l, hl, hheld⟩ := h f hf
  exact pathExists_iff.2 ⟨hasNul_join_of_isDirectory hd hn, l, _, hl, hheld⟩

/-- Files keep their texts while files of other names are written beside them. -/
theorem holds_of_changes {files others : List (String × String)} (hd : t.isDirectory dir = true)
    (hn : ∀ f ∈ files, IsName f.1) (hn' : ∀ g ∈ others, IsName g.1)
    (hother : ∀ f ∈ files, ∀ g ∈ others, f.1 ≠ g.1) (hc : Changes (IsWritten t' dir others) t t')
    (h : Holds t dir files) : Holds t' dir files := by
  intro f hf
  obtain ⟨l, hl, hheld⟩ := h f hf
  refine ⟨l, hc.locate hl, ?_⟩
  rcases hc.entry l with hsame | ⟨-, -, -, -, g, hg, hgl, -⟩
  · exact hsame.trans hheld
  · obtain ⟨-, d, hdl, -⟩ := isDirectory_iff.1 (hc.isDirectory hd)
    exact absurd (name_eq_of_locate_join (hn f hf) (hn' g hg) hdl (hc.locate hl) hgl)
      (hother f hf g hg)

/-- **Where writing comes to an end, each file holds its text**, if no name comes twice. -/
theorem holds_writeFiles {files : List (String × String)} (hd : t.isDirectory dir = true)
    (hn : ∀ f ∈ files, IsName f.1) (hdistinct : (files.map Prod.fst).Nodup) {paths : List Path}
    (h : (writeFiles t dir files).2.outcome = .ok paths) :
    Holds (writeFiles t dir files).1 dir files := by
  induction files generalizing t paths with
  | nil => nofun
  | cons f rest ih =>
    rw [List.forall_mem_cons] at hn
    rw [List.map_cons, List.nodup_cons] at hdistinct
    rw [writeFiles] at h ⊢
    rcases writeFile_cases hd hn.1 f.2 with ⟨e, he⟩ | ⟨l, hl, hfile, he⟩
    · rw [he] at h
      cases h
    · rw [he] at h ⊢
      have hput := changes_put_written hfile f.2
      have hdir := hput.isDirectory hd
      have hself : Holds (t.put l (written f.2)) dir [f] := by
        rintro g hg
        rw [List.mem_singleton.1 hg]
        exact ⟨l, hput.locate hl, at?_put_self (isAbove_of_at?_ne hfile)⟩
      have hother : ∀ g ∈ [f], ∀ k ∈ rest, g.1 ≠ k.1 := by
        intro g hg k hk hname
        rw [List.mem_singleton.1 hg] at hname
        exact hdistinct.1 (List.mem_map.2 ⟨k, hk, hname.symm⟩)
      have hkept := holds_of_changes hdir (by simpa using hn.1) hn.2 hother
        (changes_writeFiles hdir hn.2) hself
      simp only [Traced.outcome_bind, Traced.outcome_pure, bind_ok_iff] at h
      obtain ⟨-, -, paths', hpaths, -⟩ := h
      exact List.forall_mem_cons.2 ⟨hkept f (by simp), ih hdir hn.2 hdistinct.2 hpaths⟩

/-- **Writing what is there changes nothing**, and comes to an end. -/
theorem writeFiles_of_holds {files : List (String × String)} (hd : t.isDirectory dir = true)
    (hn : ∀ f ∈ files, IsName f.1) (h : Holds t dir files) :
    (writeFiles t dir files).1 = t ∧ ∃ paths, (writeFiles t dir files).2.outcome = .ok paths := by
  induction files with
  | nil => exact ⟨rfl, [], rfl⟩
  | cons f rest ih =>
    rw [List.forall_mem_cons] at hn
    obtain ⟨⟨l, hl, hheld⟩, hrest⟩ := List.forall_mem_cons.1 h
    obtain ⟨hsame, paths, hpaths⟩ := ih hn.2 hrest
    have hfile : t.at? l ≠ some .directory := by simp [hheld, written]
    have hput : t.put l (written f.2) = t := put_of_at?_eq (isAbove_of_at?_ne hfile) hheld
    have hwrite : t.write (dir / f.1) (Utf8.encode f.2.toList) = .ok t :=
      write_eq_ok.2 ⟨hasNul_join_of_isDirectory hd hn.1, l, hl, hfile, hput.symm⟩
    rw [writeFiles, writeFile_of_isDirectory hd hn.1, hwrite]
    refine ⟨hsame, dir / f.1 :: paths, ?_⟩
    simp only [Traced.outcome_bind, Traced.outcome_pure, Traced.outcome_report, hpaths]
    rfl

end Scaffold

end Fingerprint
