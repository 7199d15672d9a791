/-
The environment snapshot, read back (`read_environment`). Its first pairs stand
below no header, and the table of packages is opened by a header of its own
before the tables within it, so that it is there even when no ecosystem has
packages.
-/
import Fingerprint.Proofs.Artifact.PackageTables

namespace Fingerprint.Artifact

open Text Toml Entries

/-- The pairs below no header. -/
def leadingPairs (project : String) (d : Detection) (timestamp : String) : Members :=
  [("project", .string project), ("language", .string d.language.name),
    ("generated_at", .string timestamp)]

/-- The section of the commands. -/
def environmentSection (d : Detection) : Toml.Section where
  key := ["environment"]
  pairs := [("setup", .string (setup d.language).1), ("runtime", .string (setup d.language).2)]
  key_ne_nil := by decide
  bare := by decide
  nodup := by simp [keys]

/-- The section that opens the table of packages, without a member of its own. -/
def dependenciesSection : Toml.Section where
  key := ["dependencies"]
  pairs := []
  key_ne_nil := by decide
  bare := by decide
  nodup := by simp [keys]

/-- The sections of the environment snapshot. -/
def environmentSections (d : Detection) : List Toml.Section :=
  environmentSection d :: dependenciesSection :: packageSections d

/-- The environment snapshot as a document. -/
def environmentDocument (project : String) (d : Detection) (timestamp : String) : Members :=
  leadingPairs project d timestamp ++
    [("environment", .table (environmentSection d).pairs),
      ("dependencies", .table (packageTables d))]

theorem assemble?_environmentSections (project : String) (d : Detection) (timestamp : String) :
    assemble? (environmentSections d) (leadingPairs project d timestamp) =
      some (environmentDocument project d timestamp) := by
  let upper := leadingPairs project d timestamp ++
    [("environment", .table (environmentSection d).pairs)]
  have hnew : "dependencies" ∉ keys upper := by simp [keys, leadingPairs, upper]
  have henvironment : (environmentSection d).addTo? (leadingPairs project d timestamp) =
      some upper :=
    Section.addTo?_single rfl (by simp [keys, leadingPairs])
  have hopen : dependenciesSection.addTo? upper =
      some (upper ++ [("dependencies", .table [])]) :=
    Section.addTo?_single rfl hnew
  have htables := nodup_keys_packageTables d
  rw [← tablesOf_packageSections] at htables
  have hpackages : assemble? (packageSections d) (upper ++ [("dependencies", .table [])]) =
      some (upper ++ [("dependencies", .table (tablesOf (packageSections d)))]) :=
    assemble?_below hnew (fun _ => packageSections_key) htables
  rw [environmentSections, assemble?, henvironment, Option.bind_some, assemble?, hopen,
    Option.bind_some, hpackages, tablesOf_packageSections]
  simp [environmentDocument, upper]

theorem nodup_environmentSections (d : Detection) :
    ((environmentSections d).map Toml.Section.key).Nodup := by
  have hkeys : (environmentSections d).map Toml.Section.key =
      ["environment"] :: ["dependencies"] :: (packageSections d).map Toml.Section.key := rfl
  have hsingle := singleton_not_mem_packageSections d
  rw [hkeys, List.nodup_cons, List.nodup_cons]
  refine ⟨?_, hsingle "dependencies", nodup_packageSections d⟩
  simp [hsingle "environment"]

theorem run_leadingLines (project : String) (d : Detection) (timestamp : String) :
    Run {}
      ["# Phantom Lock File".toList,
        "# Generated for environment setup and dependency injection".toList, [],
        assign "project" project, assign "language" d.language.name,
        assign "generated_at" timestamp, []]
      (between (leadingPairs project d timestamp) [] []) := by
  have hpairs : List.Forall₂ PairLine
      [assign "project" project, assign "language" d.language.name,
        assign "generated_at" timestamp] (leadingPairs project d timestamp) :=
    .cons (pairLine_assign (by decide) _) <| .cons (pairLine_assign (by decide) _) <|
      .cons (pairLine_assign (by decide) _) .nil
  have hinsert : update? true (insertAll? (leadingPairs project d timestamp)) [] [] =
      some (leadingPairs project d timestamp) :=
    insertAll?_of_nodup (by simp [keys, leadingPairs])
  have hrun : Run {} _ (between (leadingPairs project d timestamp) [] []) :=
    run_pairLines hpairs rfl hinsert []
  refine .cons (leads_comment (s := " Phantom Lock File".toList) (by decide) {}) ?_
  refine .cons (leads_comment
    (s := " Generated for environment setup and dependency injection".toList) (by decide) {}) ?_
  exact .cons (leads_empty {}) (hrun.append (.cons (leads_empty _) .nil))

theorem sectionLines_environment (d : Detection) :
    SectionLines
      ["[environment]".toList, assign "setup" (setup d.language).1,
        assign "runtime" (setup d.language).2, []]
      (environmentSection d) :=
  .mk (s := environmentSection d)
    (.cons (pairLine_assign (by decide) _) <| .cons (pairLine_assign (by decide) _) .nil) 1

theorem sectionLines_dependencies :
    SectionLines ["[dependencies]".toList] dependenciesSection :=
  .mk (s := dependenciesSection) .nil 0

/-- **The environment snapshot is read back**: the three texts, the commands of the language, and
the packages as they were put in, in a table that is there even when it is empty, and nothing
else. -/
theorem read_environment (project : String) (d : Detection) (timestamp : String)
    (policy : RuntimePolicy)
    (hn : ∀ e, ∀ name ∈ (d.versionsFor e).keys, ¬ IsBareLine name.toList) :
    ∃ tables, HoldsPackages d tables ∧
      Toml.read (documents project d timestamp policy).environment = .ok
        [("project", .string project), ("language", .string d.language.name),
          ("generated_at", .string timestamp),
          ("environment", .table [("setup", .string (setup d.language).1),
            ("runtime", .string (setup d.language).2)]),
          ("dependencies", .table tables)] := by
  refine ⟨packageTables d, holdsPackages_packageTables d, ?_⟩
  have hsections : List.Forall₂ SectionLines _ (environmentSections d) :=
    .cons (sectionLines_environment d) (.cons sectionLines_dependencies (sectionLines_packages hn))
  obtain ⟨header, declared, hrun⟩ := run_sections hsections (fun _ _ => List.not_mem_nil)
    (nodup_environmentSections d) (assemble?_environmentSections project d timestamp) []
  have hread := read_of_run ((run_leadingLines project d timestamp).append hrun)
  rw [documents, ofLines, environmentLines, dependencyTables_eq]
  exact hread

theorem read_environment_oddlyNamed :
    ∃ tables, HoldsPackages oddlyNamed tables ∧
      Toml.read (documents "a # b" oddlyNamed "now\n" {}).environment = .ok [
        ("project", .string "a # b"), ("language", .string "ts"),
        ("generated_at", .string "now\n"),
        ("environment", .table [("setup", .string "npm install"), ("runtime", .string "node")]),
        ("dependencies", .table tables)] :=
  read_environment "a # b" oddlyNamed "now\n" {} hasReadableNames_oddlyNamed

end Fingerprint.Artifact
