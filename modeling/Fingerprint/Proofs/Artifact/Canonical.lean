/-
The texts made from a fingerprint are canonical: what they say of its packages
is their listing, so the order in which ecosystems and packages came shows in
none of them (`texts_of_same`). The two documents pass over an ecosystem
without packages, which the JSON text does not.
-/
import Fingerprint.Proofs.Artifact.PackageTables
import Fingerprint.Proofs.Detection.Listing
import Fingerprint.Proofs.Json.Layout

namespace Fingerprint

open Table Json

namespace Detection

/-- A truth value as JSON. -/
def truthText (b : Bool) : List Char := if b then "true".toList else "false".toList

/-- The JSON text of a fingerprint, its packages taken from a listing. -/
def listedText (d : Detection) (l : List (Ecosystem × List (String × String))) : List Char :=
  objectText 0 [
    ("language", stringText d.language.name),
    ("entrypoint", stringText d.entrypoint),
    ("entrypoint_is_guessed", truthText d.guessed),
    ("dependencies", objectText 1 (l.map fun x =>
      (x.1.name, objectText 2 (x.2.map fun p => (p.1, stringText p.2))))),
    ("secrets_required", truthText d.secretsRequired)]

theorem printIndented_ofStrings (level : Nat) (ps : List (String × String)) :
    printIndented level (.ofStrings ps) =
      objectText level (ps.map fun p => (p.1, stringText p.2)) := by
  rw [Value.ofStrings, printIndented_object, List.map_map]
  rfl

theorem printIndented_bool (level : Nat) (b : Bool) :
    printIndented level (.bool b) = truthText b := by
  cases b <;> simp [printIndented, truthText]

/-- **The JSON text has the packages as they are listed.** -/
theorem pretty_toJson (d : Detection) : d.toJson.pretty = String.ofList (listedText d d.listing) := by
  have hpackages : printIndented 1 (.object (d.listing.map fun x => (x.1.name, .ofStrings x.2))) =
      objectText 1 (d.listing.map fun x =>
        (x.1.name, objectText 2 (x.2.map fun p => (p.1, stringText p.2)))) := by
    simp only [printIndented_object, List.map_map, Function.comp_def, printIndented_ofStrings]
  simp only [Value.pretty, toJson, printIndented_object 0, List.map_cons, List.map_nil,
    hpackages, printIndented_bool, listedText, printIndented, Nat.zero_add]

end Detection

namespace Artifact

open Toml

variable {d d' : Detection}

/-- The lines of the table of an ecosystem with its packages; none if it has none. -/
def tableLines (x : Ecosystem × List (String × String)) : List (List Char) :=
  if x.2.isEmpty then []
  else
    ("[dependencies.".toList ++ x.1.name.toList ++ [']'])
      :: x.2.map (fun p => formatKey p.1.toList ++ " = ".toList ++ quote p.2.toList) ++ [[]]

theorem dependencyTables_eq_listing (d : Detection) :
    dependencyTables d = d.listing.flatMap tableLines := rfl

theorem dependencyTables_none (d : Detection) :
    dependencyTables { d with dependencies := ∅ } = [] := rfl

/-- The primary manifest is that without packages, the tables put in at one place. -/
theorem primaryLines_split (project : String) (d : Detection) (timestamp : String)
    (policy : RuntimePolicy) :
    ∃ pre post,
      primaryLines project { d with dependencies := ∅ } timestamp policy = pre ++ post ∧
      primaryLines project d timestamp policy = pre ++ d.listing.flatMap tableLines ++ post := by
  rw [← dependencyTables_eq_listing]
  refine ⟨_, _, ?_, rfl⟩
  rw [primaryLines, dependencyTables_none, List.append_nil]

theorem environmentLines_split (project : String) (d : Detection) (timestamp : String) :
    environmentLines project d timestamp =
      environmentLines project { d with dependencies := ∅ } timestamp ++
        d.listing.flatMap tableLines := by
  rw [environmentLines, environmentLines, dependencyTables_none, List.append_nil,
    dependencyTables_eq_listing]

/-- **An ecosystem without packages has no table**: what counts is which packages there are. -/
theorem dependencyTables_of_same (h : ∀ e, Same (d'.versionsFor e) (d.versionsFor e)) :
    dependencyTables d' = dependencyTables d := by
  have hstocked : stocked d' = stocked d :=
    List.filter_congr fun e _ => by rw [isEmpty_of_same (h e)]
  have hlines : packageLines d' = packageLines d := by
    funext e
    rw [packageLines, packageLines, sorted_of_same (h e)]
  rw [dependencyTables_eq, dependencyTables_eq, hstocked, hlines]

/-- The documents hang on the packages only through their tables. -/
theorem render?_of_tables (hlanguage : d'.language = d.language)
    (hentrypoint : d'.entrypoint = d.entrypoint) (hguessed : d'.guessed = d.guessed)
    (hsecrets : d'.secretsRequired = d.secretsRequired)
    (htables : dependencyTables d' = dependencyTables d) (project : String)
    (now : Calendar.Moment) (policy : RuntimePolicy) :
    render? project d' now policy = render? project d now policy := by
  have hdocuments : ∀ t, documents project d' t policy = documents project d t policy := by
    intro t
    simp only [documents, primaryLines, environmentLines, hlanguage, hentrypoint, hguessed,
      hsecrets, htables]
  simp only [render?, hdocuments]

/-- **No text shows the order in which packages came.** Two fingerprints with the same language,
entrypoint, mark and need for secrets, whose ecosystems have the same packages, have the same
documents, be an ecosystem absent or without any; and if the same ecosystems are present, they have
the same JSON text. All three texts have the packages as one listing has them, with ecosystems in
order of precedence and names strictly ascending by code point; what else the documents hold is what
they hold without packages. -/
theorem texts_of_same (hlanguage : d'.language = d.language)
    (hentrypoint : d'.entrypoint = d.entrypoint) (hguessed : d'.guessed = d.guessed)
    (hsecrets : d'.secretsRequired = d.secretsRequired)
    (hsame : ∀ e, Same (d'.versionsFor e) (d.versionsFor e)) :
    (∀ project now policy, render? project d' now policy = render? project d now policy) ∧
    ((∀ e, d'.dependencies.contains e = d.dependencies.contains e) →
      d'.toJson.pretty = d.toJson.pretty) ∧
    ∃ l, Detection.Lists d l ∧ d.toJson.pretty = String.ofList (d.listedText l) ∧
      ∀ project timestamp policy,
        (∃ pre post,
          primaryLines project { d with dependencies := ∅ } timestamp policy = pre ++ post ∧
          primaryLines project d timestamp policy = pre ++ l.flatMap tableLines ++ post) ∧
        environmentLines project d timestamp =
          environmentLines project { d with dependencies := ∅ } timestamp ++
            l.flatMap tableLines := by
  refine ⟨render?_of_tables hlanguage hentrypoint hguessed hsecrets
    (dependencyTables_of_same hsame), fun hpresent => ?_, d.listing, d.lists_listing,
    d.pretty_toJson, fun project timestamp policy =>
      ⟨primaryLines_split project d timestamp policy, environmentLines_split project d timestamp⟩⟩
  rw [Detection.pretty_toJson, Detection.pretty_toJson, Detection.listing_of_same hpresent hsame]
  simp only [Detection.listedText, hlanguage, hentrypoint, hguessed, hsecrets]

/-- A fingerprint with packages of two ecosystems and a third ecosystem without any. -/
def forward : Detection where
  language := .js
  entrypoint := "a.js"
  guessed := false
  dependencies := Table.ofList [
    (.node, Table.ofList [("b", "2"), ("B", "1"), ("é", "3")]),
    (.php, ∅),
    (.go, Table.ofList [("x/y", "v1"), ("x", "v2")])]

/-- The same in the opposite order. -/
def backward : Detection :=
  { forward with dependencies := Table.ofList [
      (.go, Table.ofList [("x", "v2"), ("x/y", "v1")]),
      (.php, ∅),
      (.node, Table.ofList [("é", "3"), ("B", "1"), ("b", "2")])] }

/-- The order is gone from the texts, and the two fingerprints differ in it. -/
theorem texts_of_same_backward :
    backward ≠ forward ∧ backward.toJson.pretty = forward.toJson.pretty ∧
      ∀ project now policy, render? project backward now policy =
        render? project forward now policy := by
  have hsame : ∀ e, Same (backward.versionsFor e) (forward.versionsFor e) := by
    intro e
    cases e <;> decide +kernel
  have hpresent : ∀ e, backward.dependencies.contains e = forward.dependencies.contains e := by
    intro e
    cases e <;> decide +kernel
  have hlanguage : backward.language = forward.language := rfl
  obtain ⟨hrender, hjson, -⟩ := texts_of_same hlanguage rfl rfl rfl hsame
  exact ⟨by decide +kernel, hjson hpresent, hrender⟩

end Artifact

end Fingerprint
