/-
The primary manifest, read back: the document that its sections assemble
(`read_primary_eq`), and so every text and number as it was put in, with the
packages of exactly the ecosystems that have any (`read_primary`). The one
name that is not read back is a bare name with a line feed at its end.
-/
import Fingerprint.Proofs.Artifact.PackageTables

namespace Fingerprint.Artifact

open Text Toml Entries

/-- The section of the repository. -/
def repositorySection (project : String) (d : Detection) (timestamp : String) : Toml.Section where
  key := ["repository"]
  pairs := [("project", .string project), ("version", .string "0.1.0"),
    ("entry", .string d.entrypoint), ("language", .string d.language.name),
    ("created_at", .string timestamp)]
  key_ne_nil := by decide
  bare := by decide
  nodup := by simp [keys]

/-- The section of the runtime. -/
def runtimeSection (d : Detection) (policy : RuntimePolicy) : Toml.Section where
  key := ["runtime"]
  pairs := [("language", .string d.language.name), ("isolation", .string policy.isolation.name),
    ("timeout", .int policy.timeoutMs), ("memory", .int policy.memoryMb)]
  key_ne_nil := by decide
  bare := by decide
  nodup := by simp [keys]

/-- The section of the secrets. -/
def secretsSection (d : Detection) : Toml.Section where
  key := ["secrets"]
  pairs := [("runtime", .bool d.secretsRequired)]
  key_ne_nil := by decide
  bare := by decide
  nodup := by simp [keys]

/-- The sections of the primary manifest. -/
def primarySections (project : String) (d : Detection) (timestamp : String)
    (policy : RuntimePolicy) : List Toml.Section :=
  repositorySection project d timestamp :: packageSections d ++ [runtimeSection d policy,
    secretsSection d]

theorem isTail_guess (guessed : Bool) : IsTail (if guessed then guessComment else []) := by
  cases guessed with
  | false => exact .nothing
  | true => exact .comment (s := " please update to correct entrypoint".toList) (by decide)

theorem sectionLines_repository (project : String) (d : Detection) (timestamp : String) :
    SectionLines
      ["[repository]".toList, assign "project" project, assign "version" "0.1.0",
        assign "entry" d.entrypoint ++ (if d.guessed then guessComment else []),
        assign "language" d.language.name, assign "created_at" timestamp, []]
      (repositorySection project d timestamp) :=
  .mk (s := repositorySection project d timestamp)
    (.cons (pairLine_assign (by decide) _) <| .cons (pairLine_assign (by decide) _) <|
      .cons (pairLine_tail "entry" (by decide) (denotes_quote _) (isTail_guess _)) <|
      .cons (pairLine_assign (by decide) _) <| .cons (pairLine_assign (by decide) _) .nil) 1

theorem sectionLines_runtime (d : Detection) {policy : RuntimePolicy}
    (ht : (Decimal.natText policy.timeoutMs).length ≤ Decimal.digitLimit)
    (hm : (Decimal.natText policy.memoryMb).length ≤ Decimal.digitLimit) :
    SectionLines
      ["[runtime]".toList, assign "language" d.language.name,
        assign "isolation" policy.isolation.name,
        "timeout = ".toList ++ Decimal.natText policy.timeoutMs,
        "memory = ".toList ++ Decimal.natText policy.memoryMb, []]
      (runtimeSection d policy) :=
  .mk (s := runtimeSection d policy)
    (.cons (pairLine_assign (by decide) _) <| .cons (pairLine_assign (by decide) _) <|
      .cons (pairLine_text "timeout" (by decide) (denotes_natText policy.timeout_pos ht)) <|
      .cons (pairLine_text "memory" (by decide) (denotes_natText policy.memory_pos hm))
        .nil) 1

theorem sectionLines_secrets (d : Detection) :
    SectionLines
      ["[secrets]".toList,
        "runtime = ".toList ++ (if d.secretsRequired then "true".toList else "false".toList)]
      (secretsSection d) :=
  .mk (s := secretsSection d)
    (.cons (pairLine_text "runtime" (by decide) (denotes_bool d.secretsRequired)) .nil) 0

/-- The primary manifest as a document. -/
def primaryDocument (project : String) (d : Detection) (timestamp : String)
    (policy : RuntimePolicy) : Members :=
  ("repository", .table (repositorySection project d timestamp).pairs) :: dependencyMember d ++
    [("runtime", .table (runtimeSection d policy).pairs),
      ("secrets", .table (secretsSection d).pairs)]

theorem assemble?_primarySections (project : String) (d : Detection) (timestamp : String)
    (policy : RuntimePolicy) :
    assemble? (primarySections project d timestamp policy) [] =
      some (primaryDocument project d timestamp policy) := by
  let start : Members := [("repository", .table (repositorySection project d timestamp).pairs)]
  let stock := start ++ dependencyMember d
  let upper := stock ++ [("runtime", .table (runtimeSection d policy).pairs)]
  have hrepository : (repositorySection project d timestamp).addTo? [] = some start :=
    Section.addTo?_single rfl (by simp [keys])
  have hpackages : assemble? (packageSections d) start = some stock :=
    assemble?_packageSections d (by simp [keys, start])
  have hruntime : (runtimeSection d policy).addTo? stock = some upper := by
    have hnew := not_mem_keys_dependencyMember d (show "runtime" ≠ "dependencies" by decide)
    exact Section.addTo?_single rfl (by simpa [keys, start, stock] using hnew)
  have hsecrets : (secretsSection d).addTo? upper =
      some (upper ++ [("secrets", .table (secretsSection d).pairs)]) := by
    have hnew := not_mem_keys_dependencyMember d (show "secrets" ≠ "dependencies" by decide)
    exact Section.addTo?_single rfl (by simpa [keys, start, stock, upper] using hnew)
  rw [primarySections, List.cons_append, assemble?, hrepository, Option.bind_some,
    assemble?_append, hpackages, Option.bind_some, assemble?, hruntime, Option.bind_some, assemble?,
    hsecrets]
  simp [primaryDocument, start, stock, upper, assemble?]

theorem sectionLines_primary (project : String) {d : Detection} (h : HasReadableNames d)
    (timestamp : String) {policy : RuntimePolicy}
    (ht : (Decimal.natText policy.timeoutMs).length ≤ Decimal.digitLimit)
    (hm : (Decimal.natText policy.memoryMb).length ≤ Decimal.digitLimit) :
    ∃ lss, primaryLines project d timestamp policy = lss.flatten ∧
      List.Forall₂ SectionLines lss (primarySections project d timestamp policy) := by
  refine ⟨_, ?_, .cons (sectionLines_repository project d timestamp)
    (List.rel_append (sectionLines_packages h)
      (.cons (sectionLines_runtime d ht hm) (.cons (sectionLines_secrets d) .nil)))⟩
  simp [primaryLines, dependencyTables_eq]

theorem nodup_primarySections (project : String) (d : Detection) (timestamp : String)
    (policy : RuntimePolicy) :
    ((primarySections project d timestamp policy).map Toml.Section.key).Nodup := by
  have hkeys : (primarySections project d timestamp policy).map Toml.Section.key =
      ["repository"] :: ((packageSections d).map Toml.Section.key ++ [["runtime"], ["secrets"]]) := by
    simp [primarySections, repositorySection, runtimeSection, secretsSection]
  have hsingle := singleton_not_mem_packageSections d
  rw [hkeys, List.nodup_cons, List.nodup_append]
  refine ⟨?_, nodup_packageSections d, by decide, ?_⟩
  · simp [hsingle "repository"]
  · rintro k hk _ hm rfl
    simp only [List.mem_cons, List.not_mem_nil, or_false] at hm
    rcases hm with rfl | rfl
    · exact hsingle _ hk
    · exact hsingle _ hk

theorem read_primary_eq (project : String) {d : Detection} (h : HasReadableNames d)
    (timestamp : String) {policy : RuntimePolicy}
    (ht : (Decimal.natText policy.timeoutMs).length ≤ Decimal.digitLimit)
    (hm : (Decimal.natText policy.memoryMb).length ≤ Decimal.digitLimit) :
    Toml.read (documents project d timestamp policy).primary =
      .ok (primaryDocument project d timestamp policy) := by
  obtain ⟨lss, hlines, hsections⟩ := sectionLines_primary project h timestamp ht hm
  obtain ⟨header, declared, hrun⟩ := run_sections hsections (fun _ _ => List.not_mem_nil)
    (nodup_primarySections project d timestamp policy)
    (assemble?_primarySections project d timestamp policy) []
  rw [documents, ofLines, hlines]
  exact read_of_run hrun

/-- **The primary manifest is read back**: the four texts and the version, the policy, the secrets
and the packages as they were put in, and nothing else. A comment behind a guessed entrypoint
changes nothing. -/
theorem read_primary (project : String) (d : Detection) (timestamp : String)
    (policy : RuntimePolicy)
    (ht : (Decimal.natText policy.timeoutMs).length ≤ Decimal.digitLimit)
    (hm : (Decimal.natText policy.memoryMb).length ≤ Decimal.digitLimit)
    (hn : ∀ e, ∀ name ∈ (d.versionsFor e).keys, ¬ IsBareLine name.toList) :
    ∃ tables, HoldsPackages d tables ∧
      Toml.read (documents project d timestamp policy).primary = .ok (
        [("repository", .table [("project", .string project), ("version", .string "0.1.0"),
          ("entry", .string d.entrypoint), ("language", .string d.language.name),
          ("created_at", .string timestamp)])]
        ++ (if ∀ e ∈ Ecosystem.all, (d.versionsFor e).isEmpty then []
          else [("dependencies", .table tables)])
        ++ [("runtime", .table [("language", .string d.language.name),
            ("isolation", .string policy.isolation.name), ("timeout", .int policy.timeoutMs),
            ("memory", .int policy.memoryMb)]),
          ("secrets", .table [("runtime", .bool d.secretsRequired)])]) := by
  refine ⟨packageTables d, holdsPackages_packageTables d, ?_⟩
  have hmember : dependencyMember d = if ∀ e ∈ Ecosystem.all, (d.versionsFor e).isEmpty then []
      else [("dependencies", .table (packageTables d))] := by
    simp [dependencyMember, stocked]
  rw [read_primary_eq project hn timestamp ht hm, primaryDocument, hmember]
  rfl

theorem read_primary_oddlyNamed :
    ∃ tables, HoldsPackages oddlyNamed tables ∧
      Toml.read (documents "a # b" oddlyNamed "now\n" {}).primary = .ok [
        ("repository", .table [("project", .string "a # b"), ("version", .string "0.1.0"),
          ("entry", .string "src/\"main\".ts"), ("language", .string "ts"),
          ("created_at", .string "now\n")]),
        ("dependencies", .table tables),
        ("runtime", .table [("language", .string "ts"), ("isolation", .string "v8"),
          ("timeout", .int 30000), ("memory", .int 128)]),
        ("secrets", .table [("runtime", .bool false)])] := by
  obtain ⟨tables, htables, hread⟩ := read_primary "a # b" oddlyNamed "now\n" {}
    (by decide +kernel) (by decide +kernel) hasReadableNames_oddlyNamed
  exact ⟨tables, htables, hread⟩

end Fingerprint.Artifact
