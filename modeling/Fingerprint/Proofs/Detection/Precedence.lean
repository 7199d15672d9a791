/-
Which source wins. Each step that takes in a source leaves what is known
alone, so that a whole run takes the first entrypoint that is not empty
(`named?_adoptAll`, `named?_takeOffers`) and the first language
(`language_adoptAll`). Of all sources in order, the manifests first, the
fingerprint has the first entrypoint; its language is the forced one, else the
first of the manifests, else the one that the entrypoint stands for
(`resolve_precedence`).
-/
import Fingerprint.Proofs.Detection.Outcome

namespace Fingerprint

/-- The first of several entrypoints that is not empty. -/
def Detection.firstNamed? (offers : List Detection.Offer) : Option Detection.Offer :=
  offers.find? fun o => !o.1.isEmpty

open Detection

namespace Hints

/-- The entrypoint that a manifest offers, perhaps empty. -/
def offer (h : Hints) : Offer := (h.entrypoint, h.guessed)

end Hints

namespace Resolution

/-- The entrypoint that is known, if one is. -/
def named? (r : Resolution) : Option Offer := firstNamed? [(r.entrypoint, r.guessed)]

theorem named?_withEntrypoint (r : Resolution) (o : Offer) :
    (r.withEntrypoint o.1 o.2).named? = (r.named? <|> firstNamed? [o]) := by
  obtain ⟨e, g⟩ := o
  by_cases hr : r.entrypoint.isEmpty
  · by_cases he : e.isEmpty
    · simp [withEntrypoint, named?, firstNamed?, hr, he]
    · simp [withEntrypoint, named?, firstNamed?, hr, he]
  · rw [withEntrypoint_of_known (by simpa using hr)]
    simp [named?, firstNamed?, hr]

theorem named?_adopt (r : Resolution) (h : Hints) :
    (r.adopt h).named? = (r.named? <|> firstNamed? [h.offer]) :=
  named?_withEntrypoint _ h.offer

@[simp] theorem language_withEntrypoint (r : Resolution) (e : String) (g : Bool) :
    (r.withEntrypoint e g).language = r.language := by
  unfold withEntrypoint
  split <;> rfl

@[simp] theorem dependencies_withEntrypoint (r : Resolution) (e : String) (g : Bool) :
    (r.withEntrypoint e g).dependencies = r.dependencies := by
  unfold withEntrypoint
  split <;> rfl

theorem language_adopt (r : Resolution) (h : Hints) :
    (r.adopt h).language = (r.language <|> h.language) := by
  simp [adopt, withLanguage, withDependencies]

theorem firstNamed?_cons (o : Offer) (os : List Offer) :
    firstNamed? (o :: os) = (firstNamed? [o] <|> firstNamed? os) := by
  by_cases h : o.1.isEmpty <;> simp [firstNamed?, h]

theorem firstNamed?_append (os ps : List Offer) :
    firstNamed? (os ++ ps) = (firstNamed? os <|> firstNamed? ps) := by
  simp [firstNamed?, List.find?_append]

theorem named?_takeOffers (r : Resolution) (offers : List Offer) :
    (takeOffers offers r).named? = (r.named? <|> firstNamed? offers) := by
  induction offers generalizing r with
  | nil => simp [takeOffers, firstNamed?]
  | cons o offers ih =>
    rw [takeOffers_cons, ih, named?_withEntrypoint, firstNamed?_cons o offers]
    cases r.named? <;> rfl

theorem named?_adoptAll (r : Resolution) (hs : List Hints) :
    (r.adoptAll hs).named? = (r.named? <|> firstNamed? (hs.map Hints.offer)) := by
  induction hs generalizing r with
  | nil => simp [adoptAll, firstNamed?]
  | cons h hs ih =>
    rw [adoptAll_cons, ih, named?_adopt, List.map_cons, firstNamed?_cons h.offer (hs.map Hints.offer)]
    cases r.named? <;> rfl

theorem language_takeOffers (r : Resolution) (offers : List Offer) :
    (takeOffers offers r).language = r.language := by
  induction offers generalizing r with
  | nil => rfl
  | cons o offers ih => exact (ih _).trans (language_withEntrypoint r o.1 o.2)

theorem dependencies_takeOffers (r : Resolution) (offers : List Offer) :
    (takeOffers offers r).dependencies = r.dependencies := by
  induction offers generalizing r with
  | nil => rfl
  | cons o offers ih => exact (ih _).trans (dependencies_withEntrypoint r o.1 o.2)

theorem language_adoptAll (r : Resolution) (hs : List Hints) :
    (r.adoptAll hs).language = (r.language <|> hs.findSome? Hints.language) := by
  induction hs generalizing r with
  | nil => simp [adoptAll]
  | cons h hs ih =>
    rw [adoptAll_cons, ih, language_adopt, List.findSome?_cons]
    cases r.language <;> cases h.language <;> rfl

end Resolution

namespace Detection

/-- The entrypoints that all sources offer, the manifests first. -/
def offers (s : Snapshot) (root : Path) : List Offer :=
  (sayings s root).map Hints.offer ++ fallbackOffers s root

theorem named?_learn (s : Snapshot) (root : Path) (language : Option Language) (hs : List Hints) :
    (learn s root language hs).named? =
      firstNamed? (hs.map Hints.offer ++ fallbackOffers s root) := by
  rw [learn, Resolution.named?_takeOffers, Resolution.named?_adoptAll, Resolution.firstNamed?_append]
  rfl

theorem language_learn (s : Snapshot) (root : Path) (language : Option Language) (hs : List Hints) :
    (learn s root language hs).language = (language <|> hs.findSome? Hints.language) := by
  rw [learn, Resolution.language_takeOffers, Resolution.language_adoptAll]

theorem named?_known (s : Snapshot) (root : Path) (forced : String) :
    (known s root forced).named? = firstNamed? (offers s root) :=
  named?_learn s root (forcedLanguage forced) (sayings s root)

theorem language_known (s : Snapshot) (root : Path) (forced : String) :
    (known s root forced).language =
      (forcedLanguage forced <|> (sayings s root).findSome? Hints.language) :=
  language_learn s root (forcedLanguage forced) (sayings s root)

theorem entrypoint_conclude (tree : FileTree) (root : Path) (r : Resolution) :
    ((conclude tree root r).entrypoint, (conclude tree root r).guessed) =
      r.named?.getD (defaultEntry, true) := by
  by_cases h : r.entrypoint.isEmpty <;> simp [conclude, Resolution.named?, firstNamed?, h]

/-- The default plays no part in the language: where it is needed there is no extension to look
at, and what is left is a language of its own. -/
theorem language_conclude (tree : FileTree) (root : Path) (r : Resolution) :
    (conclude tree root r).language =
      r.language.getD ((r.named?.map fun o => entryLanguage o.1).getD .js) := by
  by_cases h : r.entrypoint.isEmpty
  · have hempty : r.entrypoint = "" := by simpa using h
    have hjs : entryLanguage "" = .js := by decide
    simp [conclude, Resolution.named?, firstNamed?, hempty, hjs]
  · simp [conclude, Resolution.named?, firstNamed?, h]

/-- The entrypoint of a conclusion hangs on the one that is known, and on nothing else. -/
theorem entrypoint_conclude_congr (tree : FileTree) (root : Path) {r r' : Resolution}
    (h : r'.named? = r.named?) :
    (conclude tree root r').entrypoint = (conclude tree root r).entrypoint ∧
      (conclude tree root r').guessed = (conclude tree root r).guessed := by
  rw [← Prod.mk.injEq, entrypoint_conclude, entrypoint_conclude, h]

theorem entrypoint_conclude_ne_empty (tree : FileTree) (root : Path) (r : Resolution) :
    (conclude tree root r).entrypoint ≠ "" := by
  by_cases h : r.entrypoint.isEmpty
  · simp [conclude, h, defaultEntry]
  · have hne : r.entrypoint ≠ "" := by simpa using h
    simp [conclude, hne]

/-- **The first source wins.** A fingerprint exists only if every manifest in the directory says
something. Then its entrypoint is the first that is not empty among those of the manifests, the
process file, the configuration files, the conventional places and the default. Its language is
the forced one, else the first that a manifest names, else the one that an entrypoint other than
the default stands for. -/
theorem resolve_precedence {s : Snapshot} {root : Path} {forced : String} {d : Detection}
    (h : (resolve s root forced).outcome = .ok d) :
    (∀ e, s.tree.isFile (root / e.manifestName) = true → (saying? s root e).isSome) ∧
      firstNamed? (offers s root ++ [(defaultEntry, true)]) = some (d.entrypoint, d.guessed) ∧
      d.entrypoint ≠ "" ∧
      d.language = (forcedLanguage forced <|> (sayings s root).findSome? Hints.language).getD
        (((firstNamed? (offers s root)).map fun o => entryLanguage o.1).getD .js) := by
  obtain ⟨hr, rfl⟩ := resolve_eq_ok.1 h
  have hfirst : firstNamed? (offers s root ++ [(defaultEntry, true)]) =
      some ((conclude s.tree root (known s root forced)).entrypoint,
        (conclude s.tree root (known s root forced)).guessed) := by
    rw [entrypoint_conclude, named?_known, Resolution.firstNamed?_append]
    cases firstNamed? (offers s root) with
    | none => rfl
    | some o => rfl
  refine ⟨hr.sayings, hfirst, entrypoint_conclude_ne_empty _ _ _, ?_⟩
  rw [language_conclude, named?_known, language_known]

/-- A directory with a package manifest, a crate manifest that cannot be read, and a process file
whose entrypoint comes before the conventional one. -/
def mixedSnapshot : Snapshot where
  tree := {
    entries := Table.ofList [
      (["package.json"], .file "\x7b\"dependencies\": \x7b\"@s/x\": \"^1\"\x7d\x7d".toUTF8.toList),
      (["Cargo.toml"], .file "[dependencies]\nserde = \"1.0\"\n".toUTF8.toList),
      (["Procfile"], .file "web: node server.ts\n".toUTF8.toList),
      (["main.py"], .file [])] }
  unreadable := ["Cargo.toml"]

/-- The fingerprint of that directory. -/
def mixedDetection : Detection where
  language := .js
  entrypoint := "server.ts"
  guessed := false
  dependencies := Table.ofList [(.node, Table.ofList [("@s/x", "^1")]), (.rust, ∅)]

/-- The language is that of the package manifest, although the entrypoint stands for another. -/
theorem resolve_precedence_mixed :
    (resolve mixedSnapshot Path.here "").outcome = .ok mixedDetection ∧
      firstNamed? (offers mixedSnapshot Path.here ++ [(defaultEntry, true)]) =
        some ("server.ts", false) ∧
      mixedDetection.language = .js ∧ entryLanguage mixedDetection.entrypoint = .ts := by
  have h : (resolve mixedSnapshot Path.here "").outcome = .ok mixedDetection := by decide +kernel
  obtain ⟨_, hfirst, _, _⟩ := resolve_precedence h
  exact ⟨h, hfirst, by decide, by decide⟩

end Detection

end Fingerprint
