/-
The manifest of packages that a new Node project starts with is understood by
the detection (`read_packageManifest`): whatever the project, its description
and its author are called, it declares the starter packages and names the
loader of the same scaffold as the entrypoint, which is not a guess.
-/
import Fingerprint.Manifest.Reading
import Fingerprint.Proofs.Json.RoundTrip
import Fingerprint.Scaffold.Files

namespace Fingerprint.Scaffold

open Json

/-- The packages that a new Node project depends on. -/
def starterPackages : Versions :=
  Table.ofList [("ts-node", "^10.9.2"), ("@types/node", "^20.0.0"), ("phantomkit", "^0.1.0")]

/-- What the manifest of packages of a new project is to say. -/
def starterHints (l : Language) : Hints where
  ecosystem := .node
  dependencies := starterPackages
  language := some .js
  entrypoint := loaderFile l

/-- The text of the manifest of packages. -/
def packageText (project description author : String) (l : Language) : String :=
  (packageManifest project description author l).pretty ++ "\n"

variable {project description author : String} {l : Language}

theorem isPlain_packageManifest : (packageManifest project description author l).IsPlain := by
  refine .object (by simp [Entries.keys]) ?_
  simp only [List.forall_mem_cons]
  have hscripts : ∀ s, (Value.ofStrings [("start", s)]).IsPlain := fun s =>
    isPlain_ofStrings (by simp [Entries.keys])
  have hpackages : (Value.ofStrings [("phantomkit", "^0.1.0")]).IsPlain :=
    isPlain_ofStrings (by decide)
  have htools : (Value.ofStrings [("ts-node", "^10.9.2"), ("@types/node", "^20.0.0")]).IsPlain :=
    isPlain_ofStrings (by decide)
  have hkeywords : (Value.array [.string "phantomkit"]).IsPlain :=
    .array fun v hv => List.mem_singleton.1 hv ▸ .string _
  exact ⟨.string _, .string _, .string _, .string _, .string _, hscripts _, hpackages, htools,
    hkeywords, .string _, .string _, nofun⟩

theorem read_packageText : Json.read (packageText project description author l) =
    .ok (packageManifest project description author l) :=
  read_pretty_newline isPlain_packageManifest

theorem packageHints_packageManifest (hl : l.isNode = true) :
    Packages.packageHints false (packageManifest project description author l) =
      starterHints l := by
  cases l with
  | js => rfl
  | ts => rfl
  | python | rust | _ => cases hl

/-- **The manifest of a new Node project says what the scaffold means**: the starter packages, and
the loader as the entrypoint, which is no guess. -/
theorem read_packageManifest (hl : l.isNode = true) {beside : String → Except FileError Bool}
    (hbeside : beside Manifest.typeConfiguration = .ok false) :
    Manifest.read .node beside (packageText project description author l) =
      pure (starterHints l) := by
  have htypes : Packages.declaresTypes (packageManifest project description author l) = false := rfl
  have hhints : Manifest.packageHints beside (packageManifest project description author l) =
      .ok (starterHints l) := by
    rw [Manifest.packageHints, htypes, hbeside]
    exact congrArg Except.ok (packageHints_packageManifest hl)
  have hobject : ∃ ms, packageManifest project description author l = .object ms := ⟨_, rfl⟩
  obtain ⟨ms, hms⟩ := hobject
  rw [Manifest.read, Manifest.readObject, read_packageText, hms]
  rw [hms] at hhints
  simp only [hhints]
  rfl

end Fingerprint.Scaffold
