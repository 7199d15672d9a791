/-
The checker accepts what the renderer writes. Its requirements are met section
by section for any project and entrypoint that are not empty
(`problemsOf_primaryDocument`); the fingerprint of a directory has such an
entrypoint, and its packages have names that are read back, those of the two
JSON manifests by assumption and all others because they stand on one line
(`check_render`).
-/
import Fingerprint.Artifact.Check
import Fingerprint.Proofs.Artifact.Primary
import Fingerprint.Proofs.Detection.Provenance

namespace Fingerprint.Artifact

open Toml Entries

variable {project timestamp : String} {d : Detection} {policy : RuntimePolicy}

theorem section?_repository : section? (primaryDocument project d timestamp policy) "repository" =
    some (repositorySection project d timestamp).pairs := rfl

theorem get?_primaryDocument_of_ne {name : String} (hr : "repository" ≠ name)
    (hd : name ≠ "dependencies") : get? name (primaryDocument project d timestamp policy) =
      get? name [("runtime", .table (runtimeSection d policy).pairs),
        ("secrets", .table (secretsSection d).pairs)] := by
  rw [primaryDocument, List.cons_append, get?, if_neg hr,
    get?_append_of_not_mem (not_mem_keys_dependencyMember d hd)]

theorem section?_runtime : section? (primaryDocument project d timestamp policy) "runtime" =
    some (runtimeSection d policy).pairs := by
  rw [section?, get?_primaryDocument_of_ne (by decide) (by decide)]
  rfl

theorem section?_secrets : section? (primaryDocument project d timestamp policy) "secrets" =
    some (secretsSection d).pairs := by
  rw [section?, get?_primaryDocument_of_ne (by decide) (by decide)]
  rfl

theorem isTextTable_packageMembers (d : Detection) (e : Ecosystem) :
    isTextTable (.table (packageMembers d e)) = true := by
  simp [isTextTable, packageMembers, Value.string?]

theorem text?_of_ne {ms : Members} {name value : String} (h : get? name ms = some (.string value))
    (hv : value ≠ "") : text? ms name = some value := by
  simp [text?, h, Value.string?, hv]

theorem repositoryProblems_primaryDocument (hp : project ≠ "") (he : d.entrypoint ≠ "") :
    repositoryProblems (primaryDocument project d timestamp policy) = [] := by
  have hproject : text? (repositorySection project d timestamp).pairs "project" = some project :=
    text?_of_ne rfl hp
  have hentry : text? (repositorySection project d timestamp).pairs "entry" =
      some d.entrypoint :=
    text?_of_ne rfl he
  have hversion : text? (repositorySection project d timestamp).pairs "version" = some "0.1.0" :=
    text?_of_ne rfl (by decide)
  have hnamed : d.language.name ≠ "" := by cases d.language <;> decide
  have hlanguage : text? (repositorySection project d timestamp).pairs "language" =
      some d.language.name :=
    text?_of_ne rfl hnamed
  simp [repositoryProblems, section?_repository, repositoryKeys, hproject, hentry, hversion,
    hlanguage, Language.withName?_name]

theorem runtimeProblems_primaryDocument :
    runtimeProblems (primaryDocument project d timestamp policy) = [] := by
  have hisolation : text? (runtimeSection d policy).pairs "isolation" =
      some policy.isolation.name :=
    text?_of_ne rfl (by cases policy.isolation <;> decide)
  have hknown : Isolation.withName? policy.isolation.name = some policy.isolation := by
    cases policy.isolation <;> decide
  have htimeout : holdsPositive (runtimeSection d policy).pairs "timeout" = true := by
    have := policy.timeout_pos
    simpa [holdsPositive, runtimeSection, get?] using this
  have hmemory : holdsPositive (runtimeSection d policy).pairs "memory" = true := by
    have := policy.memory_pos
    simpa [holdsPositive, runtimeSection, get?] using this
  simp [runtimeProblems, section?_runtime, hisolation, hknown, htimeout, hmemory]

theorem secretsProblems_primaryDocument :
    secretsProblems (primaryDocument project d timestamp policy) = [] := by
  simp [secretsProblems, section?_secrets, holdsBoolean, secretsSection, get?]

theorem dependencyProblems_primaryDocument :
    dependencyProblems (primaryDocument project d timestamp policy) = [] := by
  have htext : ((packageTables d).filter fun m => !isTextTable m.2) = [] := by
    rw [List.filter_eq_nil_iff]
    intro m hm
    obtain ⟨e, -, rfl⟩ := List.mem_map.1 hm
    simp [isTextTable_packageMembers]
  have hmember : get? "dependencies" (primaryDocument project d timestamp policy) =
      if (stocked d).isEmpty then none else some (.table (packageTables d)) := by
    unfold primaryDocument dependencyMember
    split <;> simp [get?]
  unfold dependencyProblems
  rw [hmember]
  cases (stocked d).isEmpty with
  | true => rfl
  | false => simp [htext]

/-- **The document meets every requirement** if the project and the entrypoint are named. -/
theorem problemsOf_primaryDocument (hp : project ≠ "") (he : d.entrypoint ≠ "") :
    problemsOf (primaryDocument project d timestamp policy) = [] := by
  rw [problemsOf, repositoryProblems_primaryDocument hp he, runtimeProblems_primaryDocument,
    secretsProblems_primaryDocument, dependencyProblems_primaryDocument]
  rfl

/-- Only the two JSON manifests can declare a package whose name is not read back. -/
theorem hasReadableNames_of_resolve {s : Snapshot} {root : Path} {forced : String}
    (h : (Detection.resolve s root forced).outcome = .ok d)
    (hn : ∀ e, e = .node ∨ e = .php → ∀ name ∈ (d.versionsFor e).keys, ¬ IsBareLine name.toList) :
    HasReadableNames d := by
  intro e name hname
  by_cases he : e = .node ∨ e = .php
  · exact hn e he name hname
  · obtain ⟨hints, hs, hm⟩ := (Detection.mem_versionsFor_iff h).1 hname
    rw [not_or] at he
    exact not_isBareLine_of_newline_not_mem
      (Detection.newline_not_mem_of_mem_saying? he.1 he.2 hs hm)

/-- **What is made of a directory is accepted**: where a fingerprint exists, the project is named
and the moment has a timestamp, both documents are made, and the checker finds no problem in the
primary one. Of the names of packages only those in the two JSON manifests matter to that, for no
other holds a line feed. -/
theorem check_render {s : Snapshot} {root : Path} {forced : String} {d : Detection}
    (h : (Detection.resolve s root forced).outcome = .ok d) {project : String} (hp : project ≠ "")
    {now : Calendar.Moment} (hnow : now.timestamp?.isSome) {policy : RuntimePolicy}
    (ht : (Decimal.natText policy.timeoutMs).length ≤ Decimal.digitLimit)
    (hm : (Decimal.natText policy.memoryMb).length ≤ Decimal.digitLimit)
    (hn : ∀ e, e = .node ∨ e = .php → ∀ name ∈ (d.versionsFor e).keys, ¬ IsBareLine name.toList) :
    (∃ docs, render? project d now policy = some docs ∧ check docs.primary = .ok []) ∧
      ∀ e, e ≠ .node → e ≠ .php → ∀ name ∈ (d.versionsFor e).keys, '\n' ∉ name.toList := by
  constructor
  · obtain ⟨timestamp, htime⟩ := Option.isSome_iff_exists.1 hnow
    have hread := read_primary_eq project (hasReadableNames_of_resolve h hn) timestamp ht hm
    have hentry : d.entrypoint ≠ "" := by
      obtain ⟨-, rfl⟩ := Detection.resolve_eq_ok.1 h
      exact Detection.entrypoint_conclude_ne_empty _ _ _
    refine ⟨documents project d timestamp policy, by rw [render?, htime]; rfl, ?_⟩
    rw [check, hread]
    exact congrArg Except.ok (problemsOf_primaryDocument hp hentry)
  · intro e he hp name hname
    obtain ⟨hints, hs, hm⟩ := (Detection.mem_versionsFor_iff h).1 hname
    exact Detection.newline_not_mem_of_mem_saying? he hp hs hm

theorem check_render_mixed :
    ∃ docs, render? "demo" Detection.mixedDetection (.ofEpoch 1700000000) {} = some docs ∧
      check docs.primary = .ok [] := by
  have h : (Detection.resolve Detection.mixedSnapshot Path.here "").outcome =
      .ok Detection.mixedDetection := by decide +kernel
  have hnames : ∀ e, e = .node ∨ e = .php →
      ∀ name ∈ (Detection.mixedDetection.versionsFor e).keys, ¬ IsBareLine name.toList := by
    intro e _
    cases e <;> decide +kernel
  exact (check_render h (by decide) (by decide +kernel) (by decide +kernel) (by decide +kernel)
    hnames).1

end Fingerprint.Artifact
