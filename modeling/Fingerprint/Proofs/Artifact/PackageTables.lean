/-
The packages of a fingerprint as they stand in its documents: a section for
each ecosystem that has packages. As tables they hold exactly the packages of
these ecosystems (`holdsPackages_packageTables`), whatever the order in which
the packages came.
-/
import Fingerprint.Artifact.Render
import Fingerprint.Proofs.Toml.Run

namespace Fingerprint.Artifact

open Text Toml Entries

/-- The packages of an ecosystem as members of a table. -/
def packageMembers (d : Detection) (e : Ecosystem) : Members :=
  (d.versionsFor e).sorted.map fun p => (p.1, .string p.2)

/-- The ecosystems that have packages, in order of precedence. -/
def stocked (d : Detection) : List Ecosystem :=
  Ecosystem.all.filter fun e => !(d.versionsFor e).isEmpty

/-- The tables of packages by the names of their ecosystems. -/
def packageTables (d : Detection) : Members :=
  (stocked d).map fun e => (e.name, .table (packageMembers d e))

/-- A table that holds exactly the given versions, as strings. -/
def HoldsVersions (versions : Versions) (ms : Members) : Prop :=
  (keys ms).Nodup ∧ ∀ name, get? name ms = (versions.get? name).map .string

/-- Tables by ecosystem name: one for each ecosystem that has packages, holding exactly these, and
no other. -/
structure HoldsPackages (d : Detection) (tables : Members) : Prop where
  nodup : (keys tables).Nodup
  mem_keys : ∀ name, name ∈ keys tables ↔ ∃ e, e.name = name ∧ (d.versionsFor e).isEmpty = false
  holds : ∀ e, (d.versionsFor e).isEmpty = false →
    ∃ ms, get? e.name tables = some (.table ms) ∧ HoldsVersions (d.versionsFor e) ms

theorem keys_packageMembers (d : Detection) (e : Ecosystem) :
    keys (packageMembers d e) = keys (d.versionsFor e).sorted := by
  simp [packageMembers, keys, List.map_map]

theorem nodup_keys_packageMembers (d : Detection) (e : Ecosystem) :
    (keys (packageMembers d e)).Nodup := by
  rw [keys_packageMembers]
  exact (d.versionsFor e).nodup_keys_sorted

theorem holdsVersions_packageMembers (d : Detection) (e : Ecosystem) :
    HoldsVersions (d.versionsFor e) (packageMembers d e) := by
  refine ⟨nodup_keys_packageMembers d e, fun name => ?_⟩
  rw [packageMembers, get?_map, Table.get?_sorted]

theorem mem_stocked {d : Detection} {e : Ecosystem} :
    e ∈ stocked d ↔ (d.versionsFor e).isEmpty = false := by
  simp [stocked, Ecosystem.mem_all]

theorem nodup_stocked (d : Detection) : (stocked d).Nodup :=
  Ecosystem.nodup_all.filter _

theorem keys_packageTables (d : Detection) : keys (packageTables d) = (stocked d).map (·.name) := by
  simp [packageTables, keys, List.map_map]

theorem nodup_keys_packageTables (d : Detection) : (keys (packageTables d)).Nodup := by
  rw [keys_packageTables]
  exact List.Pairwise.map _ (fun _ _ hne he => hne (Ecosystem.name_injective he)) (nodup_stocked d)

theorem holdsPackages_packageTables (d : Detection) : HoldsPackages d (packageTables d) where
  nodup := nodup_keys_packageTables d
  mem_keys name := by
    rw [keys_packageTables, List.mem_map]
    simp only [mem_stocked, and_comm]
  holds e he := by
    refine ⟨packageMembers d e, ?_, holdsVersions_packageMembers d e⟩
    rw [get?_eq_some_iff (nodup_keys_packageTables d)]
    exact List.mem_map.2 ⟨e, mem_stocked.2 he, rfl⟩

/-- The tables of packages as members of a document; none if no ecosystem has packages. -/
def dependencyMember (d : Detection) : Members :=
  if (stocked d).isEmpty then [] else [("dependencies", .table (packageTables d))]

theorem not_mem_keys_dependencyMember (d : Detection) {name : String} (h : name ≠ "dependencies") :
    name ∉ keys (dependencyMember d) := by
  unfold dependencyMember
  split <;> simp [keys, h]

theorem pairLine_tail (name : String) (h : IsBareName name.toList) {text tail : List Char}
    {v : Value} (ht : Denotes text v) (htail : IsTail tail) :
    PairLine (name.toList ++ " = ".toList ++ text ++ tail) (name, v) := by
  have hline := PairLine.mk (not_isBareLine_of_isBareName h) ht htail
  rwa [formatKey_of_isBareName h] at hline

theorem pairLine_text (name : String) (h : IsBareName name.toList) {text : List Char} {v : Value}
    (ht : Denotes text v) : PairLine (name.toList ++ " = ".toList ++ text) (name, v) := by
  have hline := pairLine_tail name h ht .nothing
  rwa [List.append_nil] at hline

theorem pairLine_assign {name : String} (h : IsBareName name.toList) (value : String) :
    PairLine (assign name value) (name, .string value) := pairLine_text name h (denotes_quote value)

/-- The line of a package, whose name may be any but a bare name at the end of a line. -/
theorem pairLine_package {p : String × String} (h : ¬ IsBareLine p.1.toList) :
    PairLine (formatKey p.1.toList ++ " = ".toList ++ quote p.2.toList) (p.1, .string p.2) := by
  have hline := PairLine.mk h (denotes_quote p.2) .nothing
  rwa [List.append_nil] at hline

/-- No package of any ecosystem has a name that is not read back. -/
def HasReadableNames (d : Detection) : Prop :=
  ∀ e, ∀ name ∈ (d.versionsFor e).keys, ¬ IsBareLine name.toList

/-- A fingerprint with names that have to be quoted, and an ecosystem without packages. -/
def oddlyNamed : Detection where
  language := .ts
  entrypoint := "src/\"main\".ts"
  guessed := true
  dependencies := Table.ofList [
    (.node, Table.ofList [("@s/x.y", "^1"), ("", "\\2"), ("a\nb", "\x00")]),
    (.php, ∅),
    (.go, Table.ofList [("net", "v1")])]

theorem hasReadableNames_oddlyNamed : HasReadableNames oddlyNamed := by
  intro e
  cases e <;> decide +kernel

/-- The section of an ecosystem. -/
def packageSection (d : Detection) (e : Ecosystem) : Toml.Section where
  key := ["dependencies", e.name]
  pairs := packageMembers d e
  key_ne_nil := by simp
  bare := by cases e <;> decide
  nodup := nodup_keys_packageMembers d e

/-- The sections of the ecosystems that have packages. -/
def packageSections (d : Detection) : List Toml.Section := (stocked d).map (packageSection d)

/-- The lines of the section of an ecosystem. -/
def packageLines (d : Detection) (e : Ecosystem) : List (List Char) :=
  headerLine ["dependencies", e.name] ::
    (d.versionsFor e).sorted.map (fun p => formatKey p.1.toList ++ " = ".toList ++ quote p.2.toList)
    ++ List.replicate 1 []

theorem tablesOf_packageSections (d : Detection) : tablesOf (packageSections d) = packageTables d := by
  simp [tablesOf, packageSections, packageTables, packageSection, List.map_map]

theorem dependencyTables_eq (d : Detection) :
    dependencyTables d = ((stocked d).map (packageLines d)).flatten := by
  rw [dependencyTables, Detection.listing, stocked]
  induction Ecosystem.all with
  | nil => rfl
  | cons e es ih =>
    rw [List.filterMap_cons, List.filter_cons]
    cases h : d.dependencies.get? e with
    | none =>
      have hv : (d.versionsFor e).isEmpty = true := by simp [Detection.versionsFor, h]; rfl
      simpa [hv] using ih
    | some vs =>
      have hv : d.versionsFor e = vs := by simp [Detection.versionsFor, h]
      rw [Option.map_some, List.flatMap_cons, ih, hv, Table.isEmpty_sorted]
      cases hvs : vs.isEmpty with
      | true => simp
      | false =>
        simp only [Bool.false_eq_true, if_false, Bool.not_false, if_true, List.map_cons,
          List.flatten_cons, packageLines, hv, headerLine, dottedNames, join, List.map_nil,
          List.replicate]
        simp

theorem sectionLines_package {d : Detection} (h : HasReadableNames d) (e : Ecosystem) :
    SectionLines (packageLines d e) (packageSection d e) := by
  have hpairs : (packageSection d e).pairs = packageMembers d e := rfl
  refine .mk (s := packageSection d e) ?_ 1
  rw [hpairs, packageMembers, List.forall₂_map_left_iff, List.forall₂_map_right_iff,
    List.forall₂_same]
  intro p hp
  refine pairLine_package (h e p.1 ?_)
  exact List.mem_map_of_mem ((Table.sorted_perm _).mem_iff.1 hp)

theorem sectionLines_packages {d : Detection} (h : HasReadableNames d) :
    List.Forall₂ SectionLines ((stocked d).map (packageLines d)) (packageSections d) := by
  rw [packageSections, List.forall₂_map_left_iff, List.forall₂_map_right_iff, List.forall₂_same]
  exact fun e _ => sectionLines_package h e

theorem packageSections_key {d : Detection} {s : Toml.Section} (h : s ∈ packageSections d) :
    ∃ name, s.key = ["dependencies", name] := by
  obtain ⟨e, -, rfl⟩ := List.mem_map.1 h
  exact ⟨e.name, rfl⟩

theorem nodup_packageSections (d : Detection) :
    ((packageSections d).map Toml.Section.key).Nodup := by
  have hkeys : (packageSections d).map Toml.Section.key =
      (stocked d).map fun e => ["dependencies", e.name] := by
    simp [packageSections, packageSection, List.map_map]
  rw [hkeys]
  refine List.Pairwise.map _ (fun a b hne he => hne (Ecosystem.name_injective ?_)) (nodup_stocked d)
  simpa using he

theorem singleton_not_mem_packageSections (d : Detection) (name : String) :
    [name] ∉ (packageSections d).map Toml.Section.key := by
  intro h
  obtain ⟨s, hs, he⟩ := List.mem_map.1 h
  obtain ⟨n, hn⟩ := packageSections_key hs
  cases hn.symm.trans he

/-- The sections of packages go to the end of a document that has no member of that name. -/
theorem assemble?_packageSections (d : Detection) {root : Members}
    (h : "dependencies" ∉ keys root) :
    assemble? (packageSections d) root = some (root ++ dependencyMember d) := by
  have hempty : (packageSections d).isEmpty = (stocked d).isEmpty := by simp [packageSections]
  have htables := nodup_keys_packageTables d
  rw [← tablesOf_packageSections] at htables
  rw [assemble?_new h (fun _ => packageSections_key) htables, tablesOf_packageSections, hempty,
    dependencyMember]

end Fingerprint.Artifact
