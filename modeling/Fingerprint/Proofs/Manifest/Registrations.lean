/-
What becomes of the registry while it is emptied and ecosystems are registered.
A change keeps what is registered, adds one ecosystem or leaves none
(`mem_change`), so after any changes those are registered that came since the
last emptying (`mem_changeAll`). They are listed in order of precedence, however
they came, and in a directory those manifests are found, in this order, at
whose paths files stand (`changeAll_ordered`). A path too long to be asked for
leaves no manifest of the directory found (`discover_windingDirectory`).
-/
import Mathlib.Data.List.Induction
import Fingerprint.Proofs.Manifest.Discovery
import Fingerprint.Proofs.Manifest.PackageReading

namespace Fingerprint.Registry

open FileTree

/-- A change of the registry: it is emptied, or an ecosystem is registered. -/
inductive Change where
  | clear
  | register (e : Ecosystem)
  deriving DecidableEq, Repr

/-- The registry after a change. -/
def change (r : Registry) : Change → Registry
  | .clear => empty
  | .register e => r.register e

/-- The registry after several changes, from left to right. -/
def changeAll (r : Registry) (cs : List Change) : Registry := cs.foldl change r

/-- Whether an ecosystem has been registered since the last emptying, if there was one. -/
def RegisteredSince (cs : List Change) (e : Ecosystem) : Prop :=
  ∃ before after, cs = before ++ .register e :: after ∧ .clear ∉ after

variable {r : Registry} {e : Ecosystem} {c : Change} {cs : List Change}

theorem mem_register {e' : Ecosystem} :
    e ∈ (r.register e').registered ↔ e = e' ∨ e ∈ r.registered := by
  unfold register
  split
  next h =>
    refine ⟨.inr, ?_⟩
    rintro (rfl | he)
    · exact h
    · exact he
  next => simp [or_comm]

/-- **What one change leaves registered.** -/
theorem mem_change :
    e ∈ (r.change c).registered ↔ c = .register e ∨ c ≠ .clear ∧ e ∈ r.registered := by
  cases c with
  | clear => simp [change, empty]
  | register e' => simp [change, mem_register, eq_comm]

theorem registeredSince_snoc :
    RegisteredSince (cs ++ [c]) e ↔ c = .register e ∨ c ≠ .clear ∧ RegisteredSince cs e := by
  constructor
  · rintro ⟨before, after, hcs, hafter⟩
    induction after using List.reverseRecOn with
    | nil => exact .inl (List.cons.inj (List.append_inj' hcs rfl).2).1
    | append_singleton after d _ =>
      rw [← List.cons_append, ← List.append_assoc] at hcs
      obtain ⟨rfl, hd⟩ := List.append_inj' hcs rfl
      obtain rfl := (List.cons.inj hd).1
      simp only [List.mem_append, List.mem_singleton, not_or] at hafter
      exact .inr ⟨Ne.symm hafter.2, before, after, rfl, hafter.1⟩
  · rintro (rfl | ⟨hc, before, after, rfl, hafter⟩)
    · exact ⟨cs, [], rfl, List.not_mem_nil⟩
    · exact ⟨before, after ++ [c], by simp, by simp [hafter, hc.symm]⟩

/-- **What any changes leave registered**: what came since the last emptying, and what was there at
the beginning if there was none. -/
theorem mem_changeAll :
    e ∈ (r.changeAll cs).registered ↔ .clear ∉ cs ∧ e ∈ r.registered ∨ RegisteredSince cs e := by
  induction cs using List.reverseRecOn with
  | nil => simp [changeAll, RegisteredSince]
  | append_singleton cs c ih =>
    have hsnoc : r.changeAll (cs ++ [c]) = (r.changeAll cs).change c := by simp [changeAll]
    rw [hsnoc, mem_change, ih, registeredSince_snoc, List.mem_append, List.mem_singleton]
    grind

theorem ordered_sublist (r : Registry) : r.ordered.Sublist Ecosystem.all := List.filter_sublist

theorem nodup_ordered (r : Registry) : r.ordered.Nodup := Ecosystem.nodup_all.filter _

theorem mem_ordered_changeAll :
    e ∈ (full.changeAll cs).ordered ↔ .clear ∉ cs ∨ RegisteredSince cs e := by
  have hfull : e ∈ full.registered := e.mem_all
  rw [mem_ordered, mem_changeAll]
  simp only [hfull, and_true]

/-- **The registry is listed in order of precedence, however it came about.** After any changes of
the full registry, the ecosystems registered since the last emptying are listed (or all of them, if
there was none), each once. In a directory those manifests are found, in this order, at whose paths
files stand; nothing is found iff the path of a listed one is too long, and the first such path is
named. -/
theorem changeAll_ordered (cs : List Change) :
    ((full.changeAll cs).ordered.Sublist [.node, .rust, .python, .ruby, .go, .php, .swift] ∧
      (full.changeAll cs).ordered.Nodup ∧
      ∀ e, e ∈ (full.changeAll cs).ordered ↔ .clear ∉ cs ∨ RegisteredSince cs e) ∧
    ∀ (t : FileTree) (root : Path), t.isDirectory root = true →
      (∀ found, (full.changeAll cs).discover t root = .ok found ↔
        (∀ e ∈ (full.changeAll cs).ordered, Fits root e) ∧
        found = ((full.changeAll cs).ordered.filter fun e =>
          t.isFile (root / e.manifestName)).map fun e => (e, root / e.manifestName)) ∧
      ∀ error, (full.changeAll cs).discover t root = .error error ↔
        ∃ e, (full.changeAll cs).ordered.find? (fun e => ¬ Fits root e) = some e ∧
          error = .refused .nameTooLong (root / e.manifestName) := by
  refine ⟨⟨ordered_sublist _, nodup_ordered _, fun e => mem_ordered_changeAll⟩,
    fun t root hdir => ?_⟩
  have hall : (∀ e ∈ (full.changeAll cs).ordered, Fits root e) ↔
      (full.changeAll cs).ordered.find? (fun e => ¬ Fits root e) = none := by simp
  rw [discover_directory hdir, ← present_eq, hall]
  cases (full.changeAll cs).ordered.find? (fun e => ¬ Fits root e) with
  | none => simp [eq_comm]
  | some e => simp [eq_comm]

/-- A directory in which manifests and other entries stand. -/
def strayTree : FileTree where
  entries := Table.ofList [
    (["go.mod"], .file []), (["package.json"], .directory), (["Podfile"], .file []),
    (["Cargo.toml"], .file [])]

/-- An emptying, and registrations before and behind it. -/
def strayChanges : List Change := [
  .register .rust, .clear, .register .swift, .register .node, .register .swift, .register .go]

/-- An ecosystem registered twice is found once, and one registered before the emptying is not. -/
theorem changeAll_ordered_stray :
    .swift ∈ (full.changeAll strayChanges).ordered ∧
    (full.changeAll strayChanges).discover strayTree Path.here =
      .ok [(.go, Path.here / "go.mod"), (.swift, Path.here / "Podfile")] := by
  obtain ⟨⟨-, -, hlisted⟩, hfound⟩ := changeAll_ordered strayChanges
  obtain ⟨hok, -⟩ := hfound strayTree Path.here (by decide +kernel)
  have hsince : RegisteredSince strayChanges .swift :=
    ⟨[.register .rust, .clear, .register .swift, .register .node], [.register .go], rfl, by decide⟩
  exact ⟨(hlisted .swift).2 (.inr hsince), (hok _).2 ⟨by decide +kernel, by decide +kernel⟩⟩

open Packages in
/-- At the end of a winding path stands a package manifest, and yet nothing is found, since another
manifest cannot be asked for there. -/
theorem discover_windingDirectory :
    windingTree.isDirectory windingDirectory = true ∧
    windingTree.isFile (windingDirectory / Ecosystem.node.manifestName) = true ∧
    (full.changeAll []).discover windingTree windingDirectory =
      .error (.refused .nameTooLong (windingDirectory / Ecosystem.python.manifestName)) := by
  have hdir := isDirectory_windingDirectory
  have hname : IsName Ecosystem.node.manifestName := by decide
  have hsize : ∀ e : Ecosystem, Fits windingDirectory e ↔ e.manifestName.utf8ByteSize ≤ 12 := by
    intro e
    rw [Fits, size_windingDirectory (Detection.isName_manifestName e), pathLimit]
    omega
  refine ⟨hdir, ?_, ?_⟩
  · have hlocate := locate_join locate_windingDirectory (by decide) hname (by decide)
    rw [if_neg (Nat.not_lt.2 ((hsize .node).2 (by decide)))] at hlocate
    exact isFile_iff.2 ⟨hasNul_join_of_isDirectory hdir hname, _, _, hlocate, rfl⟩
  · have hfirst : (full.changeAll []).ordered.find? (fun e => ¬ Fits windingDirectory e) =
        some .python := by
      simp only [hsize]
      decide +kernel
    rw [discover_directory hdir, hfirst]

end Fingerprint.Registry
