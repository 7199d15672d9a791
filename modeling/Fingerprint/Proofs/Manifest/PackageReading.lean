/-
Reading a package manifest in a directory. Hints come of it iff the manifest
says by itself that the project is typed or the question for the type
configuration beside it has an answer (`exists_hintsIn_iff`); in a directory
the latter means that the path is not too long. The hints are what the members
that are looked at say (`read_members`).
-/
import Fingerprint.Manifest.Reading
import Fingerprint.Proofs.FileTree.Directories
import Fingerprint.Proofs.Manifest.PackageMembers

namespace Fingerprint.Packages

open FileTree Json

/-- What comes of reading a text as the package manifest of a directory. -/
def hintsIn (tree : FileTree) (dir : Path) (text : String) : Except Manifest.Failure Hints :=
  (Manifest.read .node (fun name => tree.checkFile (dir / name)) text).outcome

variable {d : List (String × Value)} {text : String} {h : Hints} {tree : FileTree} {dir : Path}

theorem hintsIn_eq_ok (hread : Json.read text = .ok (.object d)) :
    hintsIn tree dir text = .ok h ↔ ∃ typed, packageHints typed (.object d) = h ∧
      (DeclaresTypes d ∧ typed = true ∨ ¬ DeclaresTypes d ∧
        tree.checkFile (dir / Manifest.typeConfiguration) = .ok typed) := by
  have houtcome : hintsIn tree dir text = (Manifest.packageHints
      (fun name => tree.checkFile (dir / name)) (.object d)).mapError .file := by
    rw [hintsIn, Manifest.read, Manifest.readObject, hread]
    rfl
  rw [houtcome, mapError_ok_iff, Manifest.packageHints,
    ← declaresTypes_iff (Json.distinct_of_read hread)]
  cases declaresTypes (.object d) with
  | true => simp
  | false =>
    cases tree.checkFile (dir / Manifest.typeConfiguration) with
    | error error => simp [Except.map]
    | ok typed => simp [Except.map]

theorem exists_hintsIn_iff (hread : Json.read text = .ok (.object d)) :
    (∃ h, hintsIn tree dir text = .ok h) ↔
      DeclaresTypes d ∨ tree.requireShort (dir / Manifest.typeConfiguration) = .ok () := by
  by_cases ht : DeclaresTypes d
  · simp [hintsIn_eq_ok hread, ht]
  · simp [hintsIn_eq_ok hread, ht, checkFile_eq_ok]

theorem saidBy_hintsIn (hread : Json.read text = .ok (.object d))
    (hh : hintsIn tree dir text = .ok h) :
    SaidBy d (tree.isFile (dir / Manifest.typeConfiguration)) h := by
  obtain ⟨typed, rfl, htyped⟩ := (hintsIn_eq_ok hread).1 hh
  refine saidBy_packageHints (Json.distinct_of_read hread) ?_
  rcases htyped with ⟨ht, rfl⟩ | ⟨ht, hcheck⟩
  · simp [ht]
  · obtain ⟨-, rfl⟩ := checkFile_eq_ok.1 hcheck
    simp [ht]

theorem requireShort_typeConfiguration (hdir : tree.isDirectory dir = true) :
    tree.requireShort (dir / Manifest.typeConfiguration) = .ok () ↔
      (dir / Manifest.typeConfiguration).toString.utf8ByteSize ≤ pathLimit :=
  requireShort_join hdir (by decide) (by decide)

/-- **A package manifest says what five of its members and the type configuration beside it say**,
and nothing else changes that. Reading fails only if the manifest is silent on types and the
question for the type configuration has no answer; in a directory, if that path is too long. -/
theorem read_members (tree : FileTree) (dir : Path) (hread : Json.read text = .ok (.object d)) :
    ((∃ h, hintsIn tree dir text = .ok h) ↔
      DeclaresTypes d ∨ tree.requireShort (dir / Manifest.typeConfiguration) = .ok ()) ∧
    (tree.isDirectory dir = true →
      (tree.requireShort (dir / Manifest.typeConfiguration) = .ok () ↔
        (dir / Manifest.typeConfiguration).toString.utf8ByteSize ≤ pathLimit)) ∧
    ∀ h, hintsIn tree dir text = .ok h →
      SaidBy d (tree.isFile (dir / Manifest.typeConfiguration)) h ∧
      ∀ text' d', Json.read text' = .ok (.object d') → SameInspected d d' →
        ∃ h', hintsIn tree dir text' = .ok h' ∧ SayAlike h h' := by
  refine ⟨exists_hintsIn_iff hread, requireShort_typeConfiguration,
    fun h hh => ⟨saidBy_hintsIn hread hh, fun text' d' hread' hs => ?_⟩⟩
  obtain ⟨h', hh'⟩ : ∃ h', hintsIn tree dir text' = .ok h' := by
    rw [exists_hintsIn_iff hread', ← hs.declaresTypes_iff, ← exists_hintsIn_iff hread]
    exact ⟨h, hh⟩
  have hsaid := (saidBy_hintsIn hread hh).of_sameInspected hs
  exact ⟨h', hh', hsaid.unique (Json.distinct_of_read hread') (saidBy_hintsIn hread' hh')⟩

/-- A manifest that holds one package twice. -/
def mixedMembers : List (String × Value) := [
  ("devDependencies", .object [("a", .int 1), ("b", .bool true)]),
  ("dependencies", .object [("a", .null)])]

/-- The same in another order, with one member more. -/
def shuffledMembers : List (String × Value) := [
  ("dependencies", .object [("a", .null)]), ("x", .int 0),
  ("devDependencies", .object [("a", .int 1), ("b", .bool true)])]

/-- The text of the first manifest. -/
def mixedText : String :=
  "\x7b\"devDependencies\":\x7b\"a\":1,\"b\":true\x7d,\"dependencies\":\x7b\"a\":null\x7d\x7d"

/-- The text of the second one, which repeats a member. -/
def shuffledText : String :=
  "\x7b\"dependencies\":\x7b\"a\":null\x7d,\"x\":0,\"devDependencies\":\x7b\"a\":2,\"b\":true,\"a\":1\x7d\x7d"

/-- A tree with a type configuration. -/
def configuredTree : FileTree where
  entries := Table.ofList [([Manifest.typeConfiguration], .file [])]

/-- The version in `dependencies` counts, whatever its kind, and the second text says the same. -/
theorem read_members_mixed : ∃ h h', hintsIn configuredTree Path.here mixedText = .ok h ∧
    h.dependencies.get? "a" = some "None" ∧ h.dependencies.get? "b" = some "True" ∧
    h.language = some .ts ∧ hintsIn configuredTree Path.here shuffledText = .ok h' ∧
    SayAlike h h' := by
  have hread : Json.read mixedText = .ok (.object mixedMembers) := by
    rw [mixedText, Json.read, String.toList_ofList]
    rfl
  have hread' : Json.read shuffledText = .ok (.object shuffledMembers) := by
    rw [shuffledText, Json.read, String.toList_ofList]
    rfl
  have hsame : SameInspected mixedMembers shuffledMembers := .of_perm (.swap _ _ _)
  have hconfigured : configuredTree.isFile (Path.here / Manifest.typeConfiguration) = true := by
    decide
  obtain ⟨hsome, -, hall⟩ := read_members configuredTree Path.here hread
  obtain ⟨h, hh⟩ := hsome.2 (.inr rfl)
  obtain ⟨hsaid, halike⟩ := hall h hh
  obtain ⟨h', hh', halike⟩ := halike shuffledText shuffledMembers hread' hsame
  have hfirst : Declares mixedMembers "a" .null :=
    .dependency ⟨[("a", .null)], by simp [mixedMembers], by simp⟩
  have hsecond : Declares mixedMembers "b" (.bool true) := by
    refine .development (fun w hw => ?_) ⟨[("a", .int 1), ("b", .bool true)], ?_, by simp⟩
    · obtain ⟨ms, hms, hw⟩ := hw
      simp [mixedMembers] at hms
      simp [hms] at hw
    · simp [mixedMembers]
  exact ⟨h, h', hh, (hsaid.versions _ _).2 ⟨_, hfirst, rfl⟩,
    (hsaid.versions _ _).2 ⟨_, hsecond, rfl⟩, hsaid.typed (.inr hconfigured), hh', halike⟩

/-- A tree with a package manifest in its only directory. -/
def windingTree : FileTree where
  entries := Table.ofList [(["dd"], .directory), (["dd", "package.json"], .file [0x7B, 0x7D])]

/-- A path that goes down into that directory and up again, this many times. -/
def windingPath (n : Nat) : Path := ⟨"", (List.replicate n ["dd", ".."]).flatten⟩

/-- Where that path goes down once more. -/
def windingDirectory : Path := windingPath 680 / "dd"

theorem windingPath_succ (n : Nat) :
    (windingPath (n + 1)).parts = "dd" :: ".." :: (windingPath n).parts := by
  rw [windingPath, List.replicate_succ, List.flatten_cons]
  rfl

theorem extent_windingPath (n : Nat) : Path.extent (windingPath n).parts = 6 * n := by
  induction n with
  | zero => rfl
  | succ n ih =>
    have hdown : "dd".utf8ByteSize = 2 := by decide
    have hup : "..".utf8ByteSize = 2 := by decide
    rw [windingPath_succ, Path.extent, Path.extent, ih, hdown, hup]
    omega

/-- Each turn of the way ends where it began. -/
theorem walk_windingPath (n : Nat) (parts : List String) :
    windingTree.walk [] ((windingPath n).parts ++ parts) = windingTree.walk [] parts := by
  induction n with
  | zero => rfl
  | succ n ih =>
    rw [windingPath_succ, ← ih]
    rfl

theorem hasNul_windingPath (n : Nat) : (windingPath n).hasNul = false := by
  induction n with
  | zero => rfl
  | succ n ih =>
    rw [Path.hasNul, windingPath_succ]
    exact ih

theorem parts_windingDirectory :
    windingDirectory = ⟨"", (windingPath 680).parts ++ ["dd"]⟩ := Path.join_name _ (by decide)

theorem locate_windingDirectory : windingTree.locate windingDirectory = .ok ["dd"] := by
  have hname : IsName "dd" := by decide
  have hsize : windingDirectory.toString.utf8ByteSize = 4082 := by
    rw [windingDirectory, Path.size_join_name _ hname, extent_windingPath]
    rfl
  refine locate_eq_ok.2 ⟨by rw [hsize]; decide, ?_⟩
  rw [parts_windingDirectory]
  exact (walk_windingPath 680 ["dd"]).trans rfl

theorem isDirectory_windingDirectory : windingTree.isDirectory windingDirectory = true := by
  have hname : IsName "dd" := by decide
  refine isDirectory_iff.2 ⟨?_, _, locate_windingDirectory, by decide⟩
  rw [windingDirectory, Path.hasNul_join_name _ hname, hasNul_windingPath]

theorem size_windingDirectory {name : String} (h : IsName name) :
    (windingDirectory / name).toString.utf8ByteSize = 4083 + name.utf8ByteSize := by
  rw [Path.size_join_name _ h, parts_windingDirectory, Path.extent_append, extent_windingPath]
  rfl

/-- At the end of such a path stands a package manifest that is silent on types, and no hints come
of it, since the question for the type configuration has no answer there. -/
theorem hintsIn_windingDirectory :
    windingTree.isDirectory windingDirectory = true ∧
    windingTree.read (windingDirectory / Ecosystem.node.manifestName) = .ok [0x7B, 0x7D] ∧
    Json.read "\x7b\x7d" = .ok (.object []) ∧
    ¬ ∃ h, hintsIn windingTree windingDirectory "\x7b\x7d" = .ok h := by
  have hdir := isDirectory_windingDirectory
  have hmanifest : IsName Ecosystem.node.manifestName := by decide
  have htypes : IsName Manifest.typeConfiguration := by decide
  have hread : Json.read "\x7b\x7d" = .ok (.object []) := rfl
  refine ⟨hdir, ?_, hread, ?_⟩
  · have hlocate := locate_join locate_windingDirectory (by decide) hmanifest (by decide)
    rw [size_windingDirectory hmanifest, if_neg (by decide)] at hlocate
    rw [FileTree.read, hasNul_join_of_isDirectory hdir hmanifest, find, hlocate]
    rfl
  · rw [exists_hintsIn_iff hread, requireShort_typeConfiguration hdir, size_windingDirectory htypes]
    rintro (⟨v, hv, -⟩ | hshort)
    · cases hv
    · exact absurd hshort (by decide)

end Fingerprint.Packages
