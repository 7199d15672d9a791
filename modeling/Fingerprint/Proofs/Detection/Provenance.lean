/-
Where the packages of a fingerprint come from. What manifests say about
different ecosystems is all kept, apart and in order (`entries_adoptAll`), and
nothing else adds packages. So the packages of an ecosystem are those that its
own manifest declares, and an ecosystem is there iff its manifest is
(`get?_dependencies`).
-/
import Fingerprint.Proofs.Detection.Precedence
import Fingerprint.Proofs.Manifest.Names

namespace Fingerprint

namespace Resolution

theorem dependencies_adopt (r : Resolution) (h : Hints) : (r.adopt h).dependencies =
    r.dependencies.put h.ecosystem
      (((r.dependencies.get? h.ecosystem).getD ∅).update h.dependencies) := by
  rw [adopt, dependencies_withEntrypoint]
  rfl

/-- What is taken in from manifests hangs on no other part of what is known. -/
theorem dependencies_adoptAll_congr {r r' : Resolution} (h : r'.dependencies = r.dependencies)
    (hs : List Hints) : (r'.adoptAll hs).dependencies = (r.adoptAll hs).dependencies := by
  induction hs generalizing r r' with
  | nil => exact h
  | cons k hs ih =>
    rw [adoptAll_cons, adoptAll_cons]
    exact ih (by rw [dependencies_adopt, dependencies_adopt, h])

/-- **What is said about different ecosystems is all kept**, apart and in order. -/
theorem entries_adoptAll {r : Resolution} {hs : List Hints} (hn : (hs.map Hints.ecosystem).Nodup)
    (hnew : ∀ h ∈ hs, h.ecosystem ∉ r.dependencies.keys) :
    (r.adoptAll hs).dependencies.entries =
      r.dependencies.entries ++ hs.map fun h => (h.ecosystem, h.dependencies) := by
  induction hs generalizing r with
  | nil => exact (List.append_nil _).symm
  | cons h hs ih =>
    rw [List.map_cons, List.nodup_cons] at hn
    rw [List.forall_mem_cons] at hnew
    have hnone : r.dependencies.get? h.ecosystem = none := Entries.get?_eq_none_iff.2 hnew.1
    have hfirst : (r.adopt h).dependencies = r.dependencies.put h.ecosystem h.dependencies := by
      rw [dependencies_adopt, hnone, Option.getD_none, Table.empty_update]
    have hentries : (r.adopt h).dependencies.entries =
        r.dependencies.entries ++ [(h.ecosystem, h.dependencies)] := by
      rw [hfirst]
      exact Entries.put_of_not_mem hnew.1 _
    have hrest : ∀ k ∈ hs, k.ecosystem ∉ (r.adopt h).dependencies.keys := by
      intro k hk hput
      rw [hfirst] at hput
      rcases (Table.mem_keys_put _).1 hput with hsame | hold
      · exact hn.1 (hsame ▸ List.mem_map_of_mem hk)
      · exact hnew.2 k hk hold
    rw [adoptAll_cons, ih hn.2 hrest, hentries, List.append_assoc, List.singleton_append,
      List.map_cons]

end Resolution

namespace Detection

variable {s : Snapshot} {root : Path} {e : Ecosystem} {forced : String} {d : Detection}

/-- A manifest that says something is there; it could not be read, and is silent, or has been
read. -/
theorem saying?_eq_some {h : Hints} : saying? s root e = some h ↔
    s.tree.isFile (root / e.manifestName) = true ∧
      ((∃ error, s.readLossy (root / e.manifestName) = .error error) ∧ h = .silent e ∨
        ∃ text, s.readLossy (root / e.manifestName) = .ok text ∧
          (Manifest.read e (fun name => s.tree.checkFile (root / name)) text).outcome = .ok h) := by
  unfold saying?
  rw [Path.parent_join_name root (isName_manifestName e)]
  cases s.tree.isFile (root / e.manifestName) with
  | false => simp
  | true =>
    cases s.readLossy (root / e.manifestName) with
    | error error => simp [eq_comm]
    | ok text => simp [toOption_eq_some_iff]

theorem ecosystem_of_saying? {h : Hints} (hs : saying? s root e = some h) : h.ecosystem = e := by
  obtain ⟨-, ⟨-, rfl⟩ | ⟨text, -, hread⟩⟩ := saying?_eq_some.1 hs
  · rfl
  · exact Manifest.ecosystem_of_read hread

/-- The name of a package that a manifest read line by line declares is on one line. -/
theorem newline_not_mem_of_mem_saying? (hn : e ≠ .node) (hp : e ≠ .php) {h : Hints}
    (hs : saying? s root e = some h) {name : String} (hm : name ∈ h.dependencies.keys) :
    '\n' ∉ name.toList := by
  obtain ⟨-, ⟨-, rfl⟩ | ⟨text, -, hread⟩⟩ := saying?_eq_some.1 hs
  · exact absurd hm Table.not_mem_keys_empty
  · exact Manifest.newline_not_mem_of_mem_read hn hp hread hm

theorem map_ecosystem_filterMap {es : List Ecosystem}
    (hsaid : ∀ e ∈ es, s.tree.isFile (root / e.manifestName) = true → (saying? s root e).isSome) :
    (es.filterMap (saying? s root)).map Hints.ecosystem =
      es.filter fun e => s.tree.isFile (root / e.manifestName) := by
  induction es with
  | nil => rfl
  | cons e es ih =>
    rw [List.forall_mem_cons] at hsaid
    rw [List.filterMap_cons, List.filter_cons]
    cases hs : saying? s root e with
    | none =>
      have habsent : s.tree.isFile (root / e.manifestName) ≠ true := fun hf => by
        have hsome := hsaid.1 hf
        rw [hs] at hsome
        cases hsome
      rw [if_neg habsent]
      exact ih hsaid.2
    | some h =>
      rw [if_pos (saying?_eq_some.1 hs).1, List.map_cons, ecosystem_of_saying? hs, ih hsaid.2]

/-- The packages that are known: what the manifests say about different ecosystems, one by one. -/
theorem entries_learn {hs : List Hints} (hn : (hs.map Hints.ecosystem).Nodup)
    (language : Option Language) :
    (learn s root language hs).dependencies.entries =
      hs.map fun h => (h.ecosystem, h.dependencies) := by
  rw [learn, Resolution.dependencies_takeOffers,
    Resolution.entries_adoptAll hn fun _ _ => Table.not_mem_keys_empty]
  rfl

theorem nodup_ecosystems_sayings (hr : Readable s root) :
    ((sayings s root).map Hints.ecosystem).Nodup := by
  rw [sayings, map_ecosystem_filterMap fun e _ => hr.sayings e]
  exact Ecosystem.nodup_all.sublist List.filter_sublist

theorem entries_dependencies (h : (resolve s root forced).outcome = .ok d) :
    d.dependencies.entries = (sayings s root).map fun h => (h.ecosystem, h.dependencies) := by
  obtain ⟨hr, rfl⟩ := resolve_eq_ok.1 h
  exact entries_learn (nodup_ecosystems_sayings hr) (forcedLanguage forced)

/-- An ecosystem is there iff its manifest says something, and then with what it declares. -/
theorem get?_dependencies (h : (resolve s root forced).outcome = .ok d) (e : Ecosystem) :
    d.dependencies.get? e = (saying? s root e).map Hints.dependencies := by
  ext versions
  rw [Table.get?, Entries.get?_eq_some_iff d.dependencies.nodup, entries_dependencies h,
    List.mem_map, Option.map_eq_some_iff]
  constructor
  · rintro ⟨hints, hm, hpair⟩
    obtain ⟨e', -, hs⟩ := List.mem_filterMap.1 hm
    cases hpair
    rw [ecosystem_of_saying? hs]
    exact ⟨hints, hs, rfl⟩
  · rintro ⟨hints, hs, rfl⟩
    exact ⟨hints, List.mem_filterMap.2 ⟨e, e.mem_all, hs⟩, by rw [ecosystem_of_saying? hs]⟩

/-- **A package is there iff the manifest of its ecosystem declares it.** -/
theorem mem_versionsFor_iff (h : (resolve s root forced).outcome = .ok d) {name : String} :
    name ∈ (d.versionsFor e).keys ↔
      ∃ hints, saying? s root e = some hints ∧ name ∈ hints.dependencies.keys := by
  rw [versionsFor, get?_dependencies h]
  cases saying? s root e with
  | none => simp [Table.not_mem_keys_empty]
  | some hints => simp

theorem needsSecrets_iff {tree : FileTree} {dependencies : Dependencies} :
    needsSecrets tree root dependencies = true ↔ tree.isFile (root / environmentFile) = true ∨
      ∃ name ∈ sensitivePackages, name ∈ ((dependencies.get? .node).getD ∅).keys := by
  simp only [needsSecrets, Bool.or_eq_true, List.any_eq_true, Table.contains_iff]

/-- **Each manifest in the directory gives its ecosystem, and nothing else does.** A manifest that
cannot be read gives its ecosystem no packages, and one that can be read gives it those that its
text declares. Secrets are needed iff there is an environment file or a package that reads them. -/
theorem resolve_packages (h : (resolve s root forced).outcome = .ok d) :
    d.dependencies.keys =
        Ecosystem.all.filter (fun e => s.tree.isFile (root / e.manifestName)) ∧
      (∀ e error, s.tree.isFile (root / e.manifestName) = true →
        s.readLossy (root / e.manifestName) = .error error → d.dependencies.get? e = some ∅) ∧
      (∀ e text, s.tree.isFile (root / e.manifestName) = true →
        s.readLossy (root / e.manifestName) = .ok text →
        ∃ hints, (Manifest.read e (fun name => s.tree.checkFile (root / name)) text).outcome =
            .ok hints ∧ d.dependencies.get? e = some hints.dependencies) ∧
      (d.secretsRequired = true ↔ s.tree.isFile (root / environmentFile) = true ∨
        ∃ name ∈ sensitivePackages, name ∈ (d.versionsFor .node).keys) := by
  obtain ⟨hr, hd⟩ := resolve_eq_ok.1 h
  have hsecrets : d.secretsRequired = needsSecrets s.tree root d.dependencies := by
    rw [← hd]
    rfl
  refine ⟨?_, fun e error hf hread => ?_, fun e text hf hread => ?_,
    by rw [hsecrets, needsSecrets_iff]; rfl⟩
  · rw [← map_ecosystem_filterMap fun e _ => hr.sayings e, Table.keys, Entries.keys,
      entries_dependencies h, List.map_map]
    rfl
  · have hs : saying? s root e = some (.silent e) :=
      saying?_eq_some.2 ⟨hf, .inl ⟨⟨error, hread⟩, rfl⟩⟩
    rw [get?_dependencies h, hs]
    rfl
  · obtain ⟨hints, hs⟩ := Option.isSome_iff_exists.1 (hr.sayings e hf)
    rw [get?_dependencies h, hs]
    obtain ⟨-, ⟨⟨error, herror⟩, -⟩ | ⟨text', htext, hhints⟩⟩ := saying?_eq_some.1 hs
    · cases hread.symm.trans herror
    · cases hread.symm.trans htext
      exact ⟨hints, hhints, rfl⟩

/-- A directory with one package name in two manifests, and with a manifest that is no document. -/
def sharedSnapshot : Snapshot where
  tree := {
    entries := Table.ofList [
      (["Gemfile"], .file "gem 'next', '~> 2'\n".toUTF8.toList),
      (["package.json"], .file "\x7b\"dependencies\": \x7b\"next\": \"14\"\x7d\x7d".toUTF8.toList),
      (["composer.json"], .file "[".toUTF8.toList)] }

/-- The fingerprint of that directory. -/
def sharedDetection : Detection where
  language := .js
  entrypoint := "main.rb"
  guessed := true
  dependencies := Table.ofList [
    (.node, Table.ofList [("next", "14")]), (.ruby, Table.ofList [("next", "~> 2")]), (.php, ∅)]
  secretsRequired := true

/-- Each ecosystem has its own version of the shared name, and the malformed manifest counts. -/
theorem resolve_packages_shared :
    (resolve sharedSnapshot Path.here "").outcome = .ok sharedDetection ∧
      sharedDetection.dependencies.keys = [.node, .ruby, .php] ∧
      ∃ name ∈ sensitivePackages, name ∈ (sharedDetection.versionsFor .node).keys := by
  have h : (resolve sharedSnapshot Path.here "").outcome = .ok sharedDetection := by decide +kernel
  obtain ⟨hkeys, -, -, hsecrets⟩ := resolve_packages h
  have hfiles : Ecosystem.all.filter
      (fun e => sharedSnapshot.tree.isFile (Path.here / e.manifestName)) =
        [.node, .ruby, .php] := by decide +kernel
  have hnone : sharedSnapshot.tree.isFile (Path.here / environmentFile) = false := by decide +kernel
  refine ⟨h, hkeys.trans hfiles, (hsecrets.1 rfl).resolve_left ?_⟩
  rw [hnone]
  decide

end Detection

end Fingerprint
