/-
When a directory has a fingerprint. A manifest can be read whatever it holds,
unless it is a JSON document with an integer of too many digits
(`Manifest.read_isOk_iff`), and nothing else that a file holds is in the way.
So a directory that can be looked into, under a path that leaves room for the
names of manifests, has a fingerprint iff no such document is in it
(`resolve_isOk_iff`).
-/
import Fingerprint.Proofs.Detection.Provenance
import Fingerprint.Proofs.Json.LongIntegers
import Fingerprint.Proofs.Manifest.Discovery
import Fingerprint.Proofs.Text.Utf8

namespace Fingerprint

open FileTree Text

namespace Manifest

variable {e : Ecosystem} {beside : String → Except FileError Bool} {text : String}
  {hints : Json.Value → Except FileError Hints}

/-- Whether the manifest of an ecosystem is a JSON document. -/
def IsJson (e : Ecosystem) : Prop := e = .node ∨ e = .php

theorem readObject_of_malformed (hobject : ∀ ms, Json.read text ≠ .ok (.object ms))
    (hdigits : ∀ n, Json.read text ≠ .error (.tooManyDigits n)) :
    (readObject e hints text).outcome = .ok (.silent e) := by
  unfold readObject
  simp only
  split
  next n h => exact absurd h (hdigits n)
  next => rfl
  next ms h => exact absurd h (hobject ms)
  next => rfl

theorem readObject_isOk_iff (hhints : ∀ ms, ∃ h, hints (.object ms) = .ok h) :
    (∃ h, (readObject e hints text).outcome = .ok h) ↔
      ∀ n, Json.read text ≠ .error (.tooManyDigits n) := by
  constructor
  · rintro ⟨h, hread⟩ n hn
    simp [readObject, hn] at hread
  · intro hdigits
    by_cases hobject : ∃ ms, Json.read text = .ok (.object ms)
    · obtain ⟨ms, hms⟩ := hobject
      obtain ⟨h, hh⟩ := hhints ms
      refine ⟨h, ?_⟩
      rw [readObject, hms]
      simp only [Traced.outcome_ofExcept, hh]
      rfl
    · exact ⟨_, readObject_of_malformed (not_exists.1 hobject) hdigits⟩

theorem read_of_malformed (he : IsJson e) (hobject : ∀ ms, Json.read text ≠ .ok (.object ms))
    (hdigits : ∀ n, Json.read text ≠ .error (.tooManyDigits n)) :
    (read e beside text).outcome = .ok (.silent e) := by
  obtain rfl | rfl := he
  · exact readObject_of_malformed hobject hdigits
  · exact readObject_of_malformed hobject hdigits

theorem packageHints_isOk (h : ∃ typed, beside typeConfiguration = .ok typed) (data : Json.Value) :
    ∃ hints, packageHints beside data = .ok hints := by
  obtain ⟨typed, ht⟩ := h
  unfold packageHints
  split
  · exact ⟨_, rfl⟩
  · exact ⟨_, by rw [ht]; rfl⟩

/-- **A manifest can be read whatever it holds**, unless it is a document with an integer of too
many digits. -/
theorem read_isOk_iff (hbeside : ∃ typed, beside typeConfiguration = .ok typed) :
    (∃ h, (read e beside text).outcome = .ok h) ↔
      (IsJson e → ∀ n, Json.read text ≠ .error (.tooManyDigits n)) := by
  cases e with
  | node =>
    have hjson : IsJson .node := .inl rfl
    simp only [hjson, true_implies]
    exact readObject_isOk_iff fun ms => packageHints_isOk hbeside _
  | php =>
    have hjson : IsJson .php := .inr rfl
    simp only [hjson, true_implies]
    exact readObject_isOk_iff fun ms => ⟨_, rfl⟩
  | rust | python | ruby | go | swift => exact ⟨fun _ => nofun, fun _ => ⟨_, rfl⟩⟩

end Manifest

namespace Detection

variable {s : Snapshot} {root : Path} {forced : String}

theorem requireShort_of_isDirectory {tree : FileTree} (hdir : tree.isDirectory root = true) :
    tree.requireShort root = .ok () := by
  obtain ⟨-, d, hd, -⟩ := isDirectory_iff.1 hdir
  simp [requireShort, hd]

theorem checkDirectory_of_isDirectory (hdir : s.tree.isDirectory root = true)
    (hopen : s.denied = false) : checkDirectory s root = .ok () := by
  have hthere : s.tree.pathExists root = true := by
    obtain ⟨hnul, d, hd, he⟩ := isDirectory_iff.1 hdir
    exact pathExists_iff.2 ⟨hnul, d, _, hd, he⟩
  rw [checkDirectory, requireShort_of_isDirectory hdir]
  simp only [hthere, hdir, hopen]
  rfl

theorem checkFile_typeConfiguration {tree : FileTree} (hdir : tree.isDirectory root = true)
    (hroom : HasRoom root) :
    ∃ typed, tree.checkFile (root / Manifest.typeConfiguration) = .ok typed :=
  ⟨_, checkFile_eq_ok.2 ⟨requireShort_input hdir hroom _ (by decide), rfl⟩⟩

theorem saying?_isSome_iff {e : Ecosystem} (hf : s.tree.isFile (root / e.manifestName) = true)
    (hbeside : ∃ typed, s.tree.checkFile (root / Manifest.typeConfiguration) = .ok typed) :
    (saying? s root e).isSome ↔ (Manifest.IsJson e →
      ∀ text, readable? s (root / e.manifestName) = some text →
        ∀ n, Json.read text ≠ .error (.tooManyDigits n)) := by
  rw [Option.isSome_iff_exists]
  simp only [saying?_eq_some, hf, true_and, readable?, if_true, toOption_eq_some_iff]
  cases s.readLossy (root / e.manifestName) with
  | error error => simp
  | ok text =>
    have hread : (∃ h, (Manifest.read e (fun name => s.tree.checkFile (root / name))
        text).outcome = .ok h) ↔ _ := Manifest.read_isOk_iff hbeside
    simpa using hread

theorem isFile_of_readable? {p : Path} {text : String} (h : readable? s p = some text) :
    s.tree.isFile p = true := by
  unfold readable? at h
  split at h
  next hf => exact hf
  next => cases h

/-- A directory that can be looked into has a fingerprint iff there is room in its path and each
JSON manifest can be read. -/
theorem resolve_isOk_iff (hdir : s.tree.isDirectory root = true) (hopen : s.denied = false) :
    (∃ d, (resolve s root forced).outcome = .ok d) ↔
      HasRoom root ∧ ∀ e text n, Manifest.IsJson e →
        readable? s (root / e.manifestName) = some text →
        Json.read text ≠ .error (.tooManyDigits n) := by
  constructor
  · rintro ⟨d, hd⟩
    obtain ⟨hr, -⟩ := resolve_eq_ok.1 hd
    have hroom := (discover_isOk_iff hdir).1 hr.discover
    refine ⟨hroom, fun e text n he htext => ?_⟩
    have hf := isFile_of_readable? htext
    exact (saying?_isSome_iff hf (checkFile_typeConfiguration hdir hroom)).1 (hr.sayings e hf) he
      text htext n
  · rintro ⟨hroom, hdigits⟩
    have hbeside := checkFile_typeConfiguration hdir hroom
    have hr : Readable s root := {
      directory := checkDirectory_of_isDirectory hdir hopen
      discover := (discover_isOk_iff hdir).2 hroom
      sayings := fun e hf => (saying?_isSome_iff hf hbeside).2 fun he text htext n =>
        hdigits e text n he htext }
    exact ⟨_, resolve_eq_ok.2 ⟨hr, rfl⟩⟩

/-- A directory with a package manifest and nothing else. -/
def packageSnapshot (content : List Char) : Snapshot where
  tree := { entries := Table.ofList [(["package.json"], .file (Utf8.encode content))] }

theorem readable?_packageSnapshot {content : List Char} (h : '\r' ∉ content) :
    readable? (packageSnapshot content) (Path.here / Ecosystem.node.manifestName) =
      some (String.ofList content) := by
  have htext : unifyBreaks (Utf8.decodeLossy (Utf8.encode content)) = content := by
    rw [Utf8.decodeLossy_encode, unifyBreaks_of_not_mem h]
  have hread : (packageSnapshot content).readLossy (Path.here / Ecosystem.node.manifestName) =
      .ok (String.ofList (unifyBreaks (Utf8.decodeLossy (Utf8.encode content)))) := rfl
  have hfile : (packageSnapshot content).tree.isFile (Path.here / Ecosystem.node.manifestName) =
      true := rfl
  rw [readable?, if_pos hfile, hread, htext]
  rfl

theorem resolve_memberText_ne_ok {c : Char} {run : List Char}
    (hrun : ∀ d ∈ c :: run, (asciiDigit? d).isSome = true) (hzero : c ≠ '0')
    (hlong : Decimal.digitLimit < (c :: run).length) (d : Detection) :
    (resolve (packageSnapshot (Json.memberText (c :: run))) Path.here forced).outcome ≠ .ok d := by
  have hplain : '\r' ∉ Json.memberText (c :: run) := by
    have hframe : '\r' ∉ ['\x7b', '"', 'n', '"', ':'] ∧ '\r' ∉ ['\x7d'] := by decide
    have hdigits : '\r' ∉ c :: run := fun hm => Json.ne_of_digit (hrun _ hm) (by decide) rfl
    have hmem : Json.memberText (c :: run) =
        ['\x7b', '"', 'n', '"', ':'] ++ ((c :: run) ++ ['\x7d']) := rfl
    rw [hmem, List.mem_append, List.mem_append, not_or, not_or]
    exact ⟨hframe.1, hdigits, hframe.2⟩
  have htext := readable?_packageSnapshot hplain
  generalize hs : packageSnapshot (Json.memberText (c :: run)) = s at htext ⊢
  have hdir : s.tree.isDirectory Path.here = true := by rw [← hs]; rfl
  have hopen : s.denied = false := by rw [← hs]; rfl
  intro hd
  obtain ⟨-, hdigits⟩ := (resolve_isOk_iff hdir hopen).1 ⟨d, hd⟩
  exact hdigits .node _ _ (.inl rfl) htext (Json.read_of_longMember hrun hzero hlong)

/-- **Nothing that a file holds is in the way of a fingerprint**, except an integer of too many
digits in a manifest that is a JSON document; these digits stand in it one after another. A document
that is no object says nothing. -/
theorem resolve_total (hdir : s.tree.isDirectory root = true) (hopen : s.denied = false)
    (forced : String) :
    ((∃ d, (resolve s root forced).outcome = .ok d) ↔
      HasRoom root ∧ ∀ e text n, Manifest.IsJson e →
        readable? s (root / e.manifestName) = some text →
        Json.read text ≠ .error (.tooManyDigits n)) ∧
    (∀ text n, Json.read text = .error (.tooManyDigits n) → Json.HoldsLongRun text.toList n) ∧
    ∀ e beside text, Manifest.IsJson e → (∀ ms, Json.read text ≠ .ok (.object ms)) →
      (∀ n, Json.read text ≠ .error (.tooManyDigits n)) →
      (Manifest.read e beside text).outcome = .ok (.silent e) :=
  ⟨resolve_isOk_iff hdir hopen, fun _ _ => Json.holdsLongRun_of_read,
    fun _ _ _ => Manifest.read_of_malformed⟩

/-- A directory whose package manifest is no document has a fingerprint. -/
theorem resolve_total_malformed :
    (∃ d, (resolve (packageSnapshot ['[']) Path.here "").outcome = .ok d) ∧
      ∀ beside, (Manifest.read .node beside "[").outcome = .ok (.silent .node) := by
  have hroom : HasRoom Path.here := by
    intro e
    cases e <;> decide
  have hread : ∃ cause place, Json.read "[" = .error (.malformed cause place) := ⟨_, _, rfl⟩
  obtain ⟨cause, place, hread⟩ := hread
  have hnode : readable? (packageSnapshot ['[']) (Path.here / Ecosystem.node.manifestName) =
      some "[" := by decide +kernel
  have hphp : readable? (packageSnapshot ['[']) (Path.here / Ecosystem.php.manifestName) =
      none := by decide +kernel
  have hdir : (packageSnapshot ['[']).tree.isDirectory Path.here = true := by decide +kernel
  obtain ⟨hiff, -, hsilent⟩ := resolve_total hdir rfl ""
  refine ⟨hiff.2 ⟨hroom, ?_⟩, fun beside => hsilent .node beside "[" (.inl rfl) ?_ ?_⟩
  · rintro e text n (rfl | rfl) htext
    · cases hnode.symm.trans htext
      simp [hread]
    · cases hphp.symm.trans htext
  · simp [hread]
  · simp [hread]

/-- A directory whose package manifest holds one digit more than the limit in a row. -/
def longIntegerSnapshot : Snapshot :=
  packageSnapshot (Json.memberText ('1' :: List.replicate 4300 '1'))

/-- That directory can be looked into, and yet has no fingerprint. -/
theorem resolve_longInteger :
    longIntegerSnapshot.tree.isDirectory Path.here = true ∧ longIntegerSnapshot.denied = false ∧
      ¬ ∃ d, (resolve longIntegerSnapshot Path.here "").outcome = .ok d := by
  refine ⟨rfl, rfl, ?_⟩
  rintro ⟨d, hd⟩
  refine resolve_memberText_ne_ok (fun x hx => ?_) (by decide) ?_ d hd
  · rw [← List.replicate_succ] at hx
    rw [List.eq_of_mem_replicate hx]
    decide
  · rw [List.length_cons, List.length_replicate]
    decide

end Detection

end Fingerprint
