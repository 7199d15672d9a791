/-
What comes of loading a manifest file that can be read. The answer is a verdict
on its text (`IsVerdict`): the document of a text without problems, or all its
problems. There is one for every file of UTF-8 whose text the reader gets
through; the reader stops at an integer of too many digits only, and bytes that
are no text give no answer about it either (`load_verdict`).
-/
import Fingerprint.Proofs.Artifact.Requirements
import Fingerprint.Proofs.Text.Utf8
import Fingerprint.Proofs.Toml.Run

namespace Fingerprint.Artifact

open Toml Text

/-- The text of a file that holds characters. -/
def fileText (cs : List Char) : String := String.ofList (unifyBreaks cs)

/-- Whether a result is a verdict on a text: its document if there are no problems in it, and its
problems otherwise. -/
def IsVerdict (path : Path) (text : String) : Except LoadError Members → Prop
  | .ok doc => Toml.read text = .ok doc ∧ check text = .ok []
  | .error (.invalid p ps) => p = path ∧ check text = .ok ps ∧ ps ≠ []
  | .error _ => False

variable {s : Snapshot} {path : Path} {bytes : List UInt8} {cs : List Char} {text : String}

theorem exists_bytes (hfile : s.tree.isFile path = true) (hopen : path.name ∉ s.unreadable) :
    ∃ bytes, s.readBytes path = .ok bytes := by
  have hallowed : s.unreadable.contains path.name = false := by simpa using hopen
  unfold FileTree.isFile at hfile
  rw [Bool.and_eq_true, Bool.not_eq_true'] at hfile
  unfold Snapshot.readBytes FileTree.read
  rw [hallowed, hfile.1]
  cases hfind : s.tree.find path with
  | error why => simp [hfind] at hfile
  | ok e =>
    cases e with
    | directory => simp [hfind] at hfile
    | file bytes => exact ⟨bytes, rfl⟩

theorem load_encode (hread : s.readBytes path = .ok (Utf8.encode cs)) :
    load s path = documentOf path (fileText cs) := by
  have hdecode : Utf8.decode (Utf8.encode cs) = .ok cs := Utf8.decode_eq_ok_iff.2 rfl
  rw [load, hread]
  show ((Utf8.decode (Utf8.encode cs)).mapError .encoding >>= fun cs =>
    documentOf path (fileText cs)) = _
  rw [hdecode]
  rfl

theorem load_of_not_utf8 (hread : s.readBytes path = .ok bytes) (h : ¬ ∃ cs, Utf8.encode cs = bytes) :
    ∃ fault, load s path = .error (.encoding fault) := by
  cases hdecode : Utf8.decode bytes with
  | ok cs => exact absurd ⟨cs, Utf8.decode_eq_ok_iff.1 hdecode⟩ h
  | error fault =>
    refine ⟨fault, ?_⟩
    rw [load, hread]
    show ((Utf8.decode bytes).mapError .encoding >>= fun cs => documentOf path (fileText cs)) = _
    rw [hdecode]
    rfl

theorem documentOf_of_tooManyDigits {n : Nat} (h : Toml.read text = .error (.tooManyDigits n)) :
    documentOf path text = .error (.tooManyDigits n) := by
  rw [documentOf, check, h]
  rfl

theorem isVerdict_of_problems {ps : List Problem} (hcheck : check text = .ok ps) (hne : ps ≠ []) :
    IsVerdict path text (documentOf path text) := by
  have hsome : ps.isEmpty = false := by simpa using hne
  have hdocument : documentOf path text = .error (.invalid path ps) := by
    rw [documentOf, hcheck]
    exact if_neg (by simp [hsome])
  rw [hdocument]
  exact ⟨rfl, hcheck, hne⟩

/-- **A text that the reader gets through gets a verdict.** -/
theorem isVerdict_documentOf (h : ∀ n, Toml.read text ≠ .error (.tooManyDigits n)) (path : Path) :
    IsVerdict path text (documentOf path text) := by
  cases hread : Toml.read text with
  | error e =>
    cases e with
    | tooManyDigits n => exact absurd hread (h n)
    | violated cause position =>
      have hcheck : check text = .ok [.notDocument (.violated cause position)] := by
        rw [check, hread]
      exact isVerdict_of_problems hcheck (List.cons_ne_nil _ _)
  | ok doc =>
    have hcheck : check text = .ok (problemsOf doc) := by rw [check, hread]
    by_cases hempty : problemsOf doc = []
    · rw [hempty] at hcheck
      have hdocument : documentOf path text = .ok doc := by
        rw [documentOf, hcheck, hread]
        rfl
      rw [hdocument]
      exact ⟨hread, hcheck⟩
    · exact isVerdict_of_problems hcheck hempty

/-- **A file that can be read gets a verdict on its text**, unless its bytes are not UTF-8 or the
reader stops at an integer of too many digits, which then stand in the text. -/
theorem load_verdict (hfile : s.tree.isFile path = true) (hopen : path.name ∉ s.unreadable) :
    ∃ bytes, s.readBytes path = .ok bytes ∧
      (∀ cs, Utf8.encode cs = bytes → (∀ n, Toml.read (fileText cs) ≠ .error (.tooManyDigits n)) →
        IsVerdict path (fileText cs) (load s path)) ∧
      (∀ cs, Utf8.encode cs = bytes → ∀ n, Toml.read (fileText cs) = .error (.tooManyDigits n) →
        load s path = .error (.tooManyDigits n) ∧ HoldsLongRun (fileText cs).toList n) ∧
      ((¬ ∃ cs, Utf8.encode cs = bytes) → ∃ fault, load s path = .error (.encoding fault)) := by
  obtain ⟨bytes, hread⟩ := exists_bytes hfile hopen
  refine ⟨bytes, hread, ?_, ?_, load_of_not_utf8 hread⟩
  · rintro cs rfl hdigits
    rw [load_encode hread]
    exact isVerdict_documentOf hdigits path
  · rintro cs rfl n hdigits
    rw [load_encode hread]
    exact ⟨documentOf_of_tooManyDigits hdigits, holdsLongRun_of_read hdigits⟩

/-- A directory with a manifest of the given bytes and nothing else. -/
def manifestSnapshot (bytes : List UInt8) : Snapshot where
  tree := { entries := Table.ofList [(["phantom.toml"], .file bytes)] }

/-- The path of that manifest. -/
def manifestPath : Path := Path.here / "phantom.toml"

/-- A manifest of which only the head of a section is there. -/
def shortManifest : List UInt8 := Utf8.encode "[runtime]\n".toList

theorem load_verdict_short :
    IsVerdict manifestPath "[runtime]\n" (load (manifestSnapshot shortManifest) manifestPath) := by
  have hfile : (manifestSnapshot shortManifest).tree.isFile manifestPath = true := rfl
  have hopen : manifestPath.name ∉ (manifestSnapshot shortManifest).unreadable := List.not_mem_nil
  obtain ⟨bytes, hread, hverdict, -, -⟩ := load_verdict hfile hopen
  cases hread
  exact hverdict "[runtime]\n".toList rfl fun n hn => by cases hn

/-- A manifest whose timeout is one digit longer than integers may be. -/
def longManifest : List UInt8 := Utf8.encode (digitLine "timeout" (List.replicate 4301 '1'))

theorem load_longManifest :
    load (manifestSnapshot longManifest) manifestPath = .error (.tooManyDigits 4301) := by
  have hdigits : ∀ x ∈ List.replicate 4301 '1', x.isDigit = true := by
    intro x hx
    rw [List.eq_of_mem_replicate hx]
    decide
  have hname : ¬ IsBareLine "timeout".toList := by decide +kernel
  have htext : fileText (digitLine "timeout" (List.replicate 4301 '1')) =
      String.ofList (digitLine "timeout" (List.replicate 4301 '1')) := by
    rw [fileText, unifyBreaks_of_not_mem (not_mem_digitLine hname hdigits)]
  have hread : Toml.read (String.ofList (digitLine "timeout" (List.replicate 4301 '1'))) =
      .error (.tooManyDigits 4301) := by
    rw [List.replicate_succ] at hdigits ⊢
    have hlong : Decimal.digitLimit < ('1' :: List.replicate 4300 '1').length := by
      rw [List.length_cons, List.length_replicate]
      decide
    rw [read_digitLine hname (by decide) hdigits hlong, List.length_cons, List.length_replicate]
  have hbytes : (manifestSnapshot longManifest).readBytes manifestPath =
      .ok (Utf8.encode (digitLine "timeout" (List.replicate 4301 '1'))) := rfl
  rw [load_encode hbytes, htext]
  exact documentOf_of_tooManyDigits hread

theorem not_isVerdict_of_error {r : Except LoadError Members} {e : LoadError} (h : r = .error e)
    (he : ∀ p ps, e ≠ .invalid p ps) : ¬ ∃ text, IsVerdict path text r := by
  rintro ⟨text, hverdict⟩
  rw [h] at hverdict
  cases e with
  | invalid p ps => exact he p ps rfl
  | _ => exact hverdict

/-- Neither bytes that are not UTF-8 nor an integer of too many digits get a verdict. -/
theorem load_withoutVerdict :
    ((manifestSnapshot [0xFF]).tree.isFile manifestPath = true ∧
      manifestPath.name ∉ (manifestSnapshot [0xFF]).unreadable ∧
      ¬ ∃ text, IsVerdict manifestPath text (load (manifestSnapshot [0xFF]) manifestPath)) ∧
    (manifestSnapshot longManifest).tree.isFile manifestPath = true ∧
      manifestPath.name ∉ (manifestSnapshot longManifest).unreadable ∧
      ¬ ∃ text, IsVerdict manifestPath text (load (manifestSnapshot longManifest) manifestPath) := by
  have hbytes : load (manifestSnapshot [0xFF]) manifestPath =
      .error (.encoding ⟨.badStart, 0, 0xFF, 1⟩) := rfl
  exact ⟨⟨rfl, List.not_mem_nil, not_isVerdict_of_error hbytes nofun⟩, rfl, List.not_mem_nil,
    not_isVerdict_of_error load_longManifest nofun⟩

end Fingerprint.Artifact
