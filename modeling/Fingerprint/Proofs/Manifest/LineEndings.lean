/-
Manifests saved with other line endings. The line parsers see only the lines of
a text, which do not depend on how they are ended, and in a JSON document a
line break says nothing. So a manifest written with line feeds says the same,
or fails in the same way, when each of them is turned into a carriage return
or into the two together (`read_lineEndings`).
-/
import Fingerprint.Proofs.Detection.Totality
import Fingerprint.Proofs.Json.LineBreaks

namespace Fingerprint.Manifest

open Text

variable {br : List Char} {text text' : String}

theorem readObject_of_endsAlike (h : Json.EndsAlike (Json.read text') (Json.read text))
    (e : Ecosystem) (hints : Json.Value → Except FileError Hints) :
    (readObject e hints text').outcome = (readObject e hints text).outcome := by
  unfold readObject
  revert h
  generalize Json.read text' = x
  generalize Json.read text = y
  intro h
  cases h with
  | ok v => rfl
  | malformed => rfl
  | tooManyDigits n => rfl

/-- Manifests that are no JSON are read line by line, so texts of the same lines give the same
hints. -/
theorem read_of_lines {e : Ecosystem} (he : ¬ IsJson e)
    (h : lines text'.toList = lines text.toList) (beside : String → Except FileError Bool) :
    read e beside text' = read e beside text := by
  cases e with
  | node => exact absurd (.inl rfl) he
  | php => exact absurd (.inr rfl) he
  | rust => rw [read, read, CrateManifest.dependencies, CrateManifest.dependencies, h]
  | python =>
    rw [read, read, RequirementList.dependencies, RequirementList.dependencies,
      RequirementList.requirements, RequirementList.requirements, h]
  | go => rw [read, read, ModuleList.dependencies, ModuleList.dependencies, h]
  | ruby | swift =>
    rw [read, read, Declarations.dependencies, Declarations.dependencies,
      Declarations.declarations, Declarations.declarations, h]

/-- **What a manifest says does not depend on its line endings.** -/
theorem read_lineEndings (h : '\r' ∉ text.toList) (e : Ecosystem)
    (beside : String → Except FileError Bool) :
    ∀ br ∈ returnBreaks,
      (read e beside (endLinesWith br text)).outcome = (read e beside text).outcome := by
  intro br hbr
  have hdocument := fun hints =>
    readObject_of_endsAlike (Json.read_endLinesWith (Json.isBreak_of_mem hbr) text) e hints
  by_cases he : IsJson e
  · rcases he with rfl | rfl
    · exact hdocument (packageHints beside)
    · exact hdocument fun data => .ok (Packages.composerHints data)
  · have hlines : lines (endLinesWith br text).toList = lines text.toList := by
      rw [toList_endLinesWith, lines_withBreaks hbr h]
    rw [read_of_lines he hlines]

/-- A document whose breaks stand before and behind each kind of token. -/
def spreadDocument : String := "\x7b\n\"main\"\n:\n\"a.js\"\n,\n\"types\":\ntrue\n\x7d\n"

/-- The hints of that document. -/
def spreadHints : Hints := { ecosystem := .node, language := some .ts, entrypoint := "a.js" }

/-- The lines of the document may end as they like, and the same project is described. -/
theorem read_lineEndings_document :
    '\r' ∉ spreadDocument.toList ∧
    (read .node (fun _ => .ok false) (endLinesWith ['\r', '\n'] spreadDocument)).outcome =
      .ok spreadHints ∧
    (read .node (fun _ => .ok false) (endLinesWith ['\r'] spreadDocument)).outcome =
      .ok spreadHints := by
  have hclean : '\r' ∉ spreadDocument.toList := by decide
  have hplain : (read .node (fun _ => .ok false) spreadDocument).outcome = .ok spreadHints := by
    decide +kernel
  have hsame := read_lineEndings hclean .node fun _ => .ok false
  exact ⟨hclean, (hsame ['\r', '\n'] (by decide)).trans hplain,
    (hsame ['\r'] (by decide)).trans hplain⟩

end Fingerprint.Manifest
