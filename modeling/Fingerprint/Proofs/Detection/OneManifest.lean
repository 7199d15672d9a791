/-
What hangs on one manifest. Two trees that differ only in the manifest of one
ecosystem lead alike to every other input (`leadsAlike_input`), so all other
manifests say the same in both, and the fallbacks offer the same. A manifest
that says nothing gives its ecosystem without packages and is otherwise as
good as removed (`resolve_silent`). A manifest that comes to say something
else changes no packages of other ecosystems and nothing that an earlier
manifest names (`resolve_one_manifest`).
-/
import Fingerprint.Proofs.Detection.ForcedLanguage
import Fingerprint.Proofs.Detection.Inputs
import Fingerprint.Proofs.Detection.Totality
import Fingerprint.Proofs.FileTree.OnePlace

namespace Fingerprint

open FileTree Text

namespace Ecosystem

theorem manifestName_injective {a b : Ecosystem} (h : a.manifestName = b.manifestName) : a = b := by
  cases a <;> cases b <;> first | rfl | simp [manifestName] at h

/-- The ecosystems that come before another in order of precedence. -/
def before (e : Ecosystem) : List Ecosystem := all.takeWhile (· ≠ e)

/-- The ecosystems that come after it. -/
def after (e : Ecosystem) : List Ecosystem := (all.dropWhile (· ≠ e)).tail

theorem all_eq_before_after (e : Ecosystem) : all = e.before ++ e :: e.after := by
  cases e <;> rfl

theorem ne_of_mem_before {e e' : Ecosystem} (h : e' ∈ e.before) : e' ≠ e := by
  rintro rfl
  revert h
  cases e' <;> decide

theorem ne_of_mem_after {e e' : Ecosystem} (h : e' ∈ e.after) : e' ≠ e := by
  rintro rfl
  revert h
  cases e' <;> decide

end Ecosystem

attribute [ext] Detection

/-- The entrypoint that a manifest names, if it names one. -/
def Hints.named? (h : Hints) : Option Detection.Offer := Detection.firstNamed? [h.offer]

namespace Detection

variable {s : Snapshot} {t' : FileTree} {root : Path} {e : Ecosystem} {forced : String}

theorem firstNamed?_offers (hs : List Hints) :
    firstNamed? (hs.map Hints.offer) = hs.findSome? Hints.named? := by
  induction hs with
  | nil => rfl
  | cons h hs ih =>
    rw [List.map_cons, Resolution.firstNamed?_cons, ih, List.findSome?_cons, Hints.named?]
    cases firstNamed? [h.offer] <;> rfl

/-! ## Two trees that differ in one manifest -/

theorem parts_of_mem_inputs : ∀ q ∈ inputs, (Path.ofString q).anchor = "" ∧
    ∀ part ∈ (Path.ofString q).parts, part ≠ ".." := by
  decide

theorem manifestName_not_mem_parts (e : Ecosystem) : ∀ q ∈ inputs, q ≠ e.manifestName →
    e.manifestName ∉ (Path.ofString q).parts := by
  cases e <;> decide

theorem ne_manifestName_of_mem_fallbackFiles (e : Ecosystem) :
    ∀ q ∈ fallbackFiles, q ≠ e.manifestName := by
  cases e <;> decide

section

variable (hf : s.tree.isFile (root / e.manifestName) = true)
  (h : DifferAtFile (root / e.manifestName) s.tree t')
include hf h

/-- **Every other input leads alike.** -/
theorem leadsAlike_input {q : String} (hq : q ∈ inputs) (hne : q ≠ e.manifestName) :
    LeadsAlike s.tree t' (root / q) := by
  obtain ⟨hanchor, hparts⟩ := parts_of_mem_inputs q hq
  refine h.leadsAlike_join (isName_manifestName e) hf hanchor fun part hpart => ?_
  refine ⟨hparts part hpart, ?_⟩
  rintro rfl
  exact manifestName_not_mem_parts e q hq hne hpart

theorem leadsAlike_manifest {e' : Ecosystem} (hne : e' ≠ e) :
    LeadsAlike s.tree t' (root / e'.manifestName) :=
  leadsAlike_input hf h (mem_inputs_manifestName e') fun hname =>
    hne (Ecosystem.manifestName_injective hname)

theorem leadsAlike_typeConfiguration :
    LeadsAlike s.tree t' (root / Manifest.typeConfiguration) :=
  leadsAlike_input hf h (by decide) (by cases e <;> decide)

/-- All other manifests say the same. -/
theorem saying?_other {e' : Ecosystem} (hne : e' ≠ e) :
    saying? { s with tree := t' } root e' = saying? s root e' :=
  saying?_congr (leadsAlike_manifest hf h hne) (leadsAlike_typeConfiguration hf h)

theorem conclude_learn_other (language : Option Language) (hs : List Hints) :
    conclude t' root (learn { s with tree := t' } root language hs) =
      conclude s.tree root (learn s root language hs) := by
  have hfallbacks : ∀ q ∈ fallbackFiles, LeadsAlike s.tree t' (root / q) := fun q hq =>
    leadsAlike_input hf h (mem_inputs_of_mem_fallbackFiles q hq)
      (ne_manifestName_of_mem_fallbackFiles e q hq)
  have hsecrets : LeadsAlike s.tree t' (root / environmentFile) :=
    leadsAlike_input hf h (by decide) (by cases e <;> decide)
  rw [learn_congr hfallbacks, conclude_congr hsecrets]

/-- All manifests can be asked for in one tree iff they can be in the other. -/
theorem locate_manifest (e' : Ecosystem) :
    t'.locate (root / e'.manifestName) = s.tree.locate (root / e'.manifestName) := by
  by_cases he : e' = e
  · rw [he]
    exact h.locate_eq (isName_manifestName e) hf
  · exact (leadsAlike_manifest hf h he).locate

end

/-! ## A manifest that says nothing -/

/-- Whether the manifest of an ecosystem is there and says nothing: it cannot be read, or it should
be a JSON document and is no document, or none that is an object. -/
structure SaysNothing (s : Snapshot) (root : Path) (e : Ecosystem) : Prop where
  isFile : s.tree.isFile (root / e.manifestName) = true
  nothing : (∃ error, s.readLossy (root / e.manifestName) = .error error) ∨
    Manifest.IsJson e ∧ ∃ text, s.readLossy (root / e.manifestName) = .ok text ∧
      ((∃ cause place, Json.read text = .error (.malformed cause place)) ∨
        ∃ value, Json.read text = .ok value ∧ ∀ members, value ≠ .object members)

/-- A fingerprint without the packages of an ecosystem. -/
def without (d : Detection) (e : Ecosystem) : Detection :=
  { d with dependencies := d.dependencies.filter fun k _ => k ≠ e }

theorem saying?_of_saysNothing (h : SaysNothing s root e) :
    saying? s root e = some (.silent e) := by
  rw [saying?_eq_some]
  obtain ⟨hf, herror | ⟨hjson, text, htext, hbad⟩⟩ := h
  · exact ⟨hf, .inl ⟨herror, rfl⟩⟩
  · refine ⟨hf, .inr ⟨text, htext, Manifest.read_of_malformed hjson ?_ ?_⟩⟩
    · rintro members hobject
      obtain ⟨cause, place, hbad⟩ | ⟨value, hvalue, hnot⟩ := hbad
      · cases hobject.symm.trans hbad
      · cases hobject.symm.trans hvalue
        exact hnot members rfl
    · rintro n hdigits
      obtain ⟨cause, place, hbad⟩ | ⟨value, hvalue, hnot⟩ := hbad
      · cases hdigits.symm.trans hbad
      · cases hdigits.symm.trans hvalue

theorem ecosystem_of_readManifest {p : Path} {h : Hints}
    (hread : (readManifest s e p).outcome = .ok h) : h.ecosystem = e := by
  unfold readManifest at hread
  split at hread
  next =>
    cases hread
    rfl
  next text htext =>
    rw [Traced.outcome_bind, Traced.outcome_report, Traced.outcome_mapError] at hread
    exact Manifest.ecosystem_of_read (mapError_ok_iff.1 hread)

/-- What manifests say, apart from that of an ecosystem. -/
def apartFrom (e : Ecosystem) (hs : List Hints) : List Hints := hs.filter fun h => h.ecosystem ≠ e

/-- Without a manifest that says nothing, reading fails as it did and gives the rest of what it
gave. -/
theorem outcome_readManifests_filter {ms : List (Ecosystem × Path)}
    (hother : ∀ m ∈ ms, m.1 ≠ e →
      readManifest { s with tree := t' } m.1 m.2 = readManifest s m.1 m.2)
    (hsilent : ∀ m ∈ ms, m.1 = e → (readManifest s m.1 m.2).outcome = .ok (.silent e)) :
    (readManifests { s with tree := t' } (ms.filter fun m => m.1 ≠ e)).outcome =
      (readManifests s ms).outcome.map (apartFrom e) := by
  induction ms with
  | nil => rfl
  | cons m ms ih =>
    rw [List.forall_mem_cons] at hother hsilent
    have hrest := ih hother.2 hsilent.2
    by_cases he : m.1 = e
    · -- What the manifest would have added is dropped from the result again.
      have hdrop : ((m :: ms).filter fun m => m.1 ≠ e) = ms.filter fun m => m.1 ≠ e := by
        simp [he]
      rw [hdrop, hrest, readManifests]
      simp only [Traced.outcome_bind, Traced.outcome_pure, hsilent.1 he, Except.bind]
      cases (readManifests s ms).outcome with
      | error failure => rfl
      | ok hs => simp [Except.map, apartFrom, Hints.silent]
    · have hkeep : ((m :: ms).filter fun m => m.1 ≠ e) = m :: ms.filter fun m => m.1 ≠ e := by
        simp [he]
      rw [hkeep, readManifests, readManifests]
      simp only [Traced.outcome_bind, Traced.outcome_pure, hother.1 he, hrest]
      cases hm : (readManifest s m.1 m.2).outcome with
      | error failure => rfl
      | ok h =>
        have hh : h.ecosystem ≠ e := ecosystem_of_readManifest hm ▸ he
        cases (readManifests s ms).outcome with
        | error failure => rfl
        | ok hs => simp [Except.map, Except.bind, apartFrom, hh]

/-- **Without a manifest that says nothing the others say what they said**, and fail as they did. -/
theorem gather_apartFrom (hf : s.tree.isFile (root / e.manifestName) = true)
    (h : DifferAtFile (root / e.manifestName) s.tree t')
    (hgone : t'.isFile (root / e.manifestName) = false)
    (hsilent : saying? s root e = some (.silent e)) :
    gather { s with tree := t' } root = (gather s root).map (apartFrom e) := by
  have hasked : ((Registry.full.places root).forM fun m => t'.requireShort m.2) =
      (Registry.full.places root).forM fun m => s.tree.requireShort m.2 := by
    refine forM_requireShort_congr fun m hm => ?_
    obtain ⟨e', rfl⟩ := exists_of_mem_places hm
    exact requireShort_congr (locate_manifest hf h e')
  have hpresent : Registry.full.present t' root =
      (Registry.full.present s.tree root).filter fun m => m.1 ≠ e := by
    rw [Registry.present, Registry.present, List.filter_filter]
    refine List.filter_congr fun m hm => ?_
    obtain ⟨e', rfl⟩ := exists_of_mem_places hm
    by_cases he : e' = e
    · simp [he, hgone]
    · simp [he, (leadsAlike_manifest hf h he).isFile]
  have hread : (readManifests { s with tree := t' } (Registry.full.present t' root)).outcome =
      (readManifests s (Registry.full.present s.tree root)).outcome.map (apartFrom e) := by
    rw [hpresent]
    refine outcome_readManifests_filter (fun m hm hne => ?_) (fun m hm he => ?_)
    · obtain ⟨e', rfl⟩ := exists_of_mem_present hm
      exact readManifest_congr e' (leadsAlike_manifest hf h hne) (leadsAlike_typeConfiguration hf h)
    · obtain ⟨e', rfl⟩ := exists_of_mem_present hm
      subst he
      exact (read_eq_saying? hf).2 hsilent
  rw [gather, gather, discover_eq, discover_eq, hasked,
    checkDirectory_congr (h.leadsAlike_directory (isName_manifestName e) hf)]
  cases checkDirectory s root with
  | error failure => rfl
  | ok u =>
    cases (Registry.full.places root).forM fun m => s.tree.requireShort m.2 with
    | error error => rfl
    | ok u => exact hread

theorem findSome?_filter {α β : Type} {f : α → Option β} {p : α → Bool} {xs : List α}
    (h : ∀ x ∈ xs, p x = false → f x = none) : (xs.filter p).findSome? f = xs.findSome? f := by
  induction xs with
  | nil => rfl
  | cons x xs ih =>
    rw [List.forall_mem_cons] at h
    rw [List.filter_cons, List.findSome?_cons]
    cases hp : p x with
    | true => rw [if_pos rfl, List.findSome?_cons, ih h.2]
    | false => rw [if_neg Bool.false_ne_true, ih h.2, h.1 hp]

section

variable {hs : List Hints}

/-- A part of what manifests say that is absent where nothing is said is found elsewhere. -/
theorem findSome?_apartFrom {β : Type} {f : Hints → Option β}
    (hsilent : ∀ h ∈ hs, h.ecosystem = e → h = .silent e) (hf : f (.silent e) = none) :
    (apartFrom e hs).findSome? f = hs.findSome? f := by
  refine findSome?_filter fun h hh he => ?_
  rw [hsilent h hh (by simpa using he), hf]

theorem dependencies_learn_apartFrom (hn : (hs.map Hints.ecosystem).Nodup)
    (language : Option Language) :
    (learn s root language (apartFrom e hs)).dependencies =
      (learn s root language hs).dependencies.filter fun k _ => k ≠ e := by
  have hapart : ((apartFrom e hs).map Hints.ecosystem).Nodup :=
    hn.sublist (List.filter_sublist.map _)
  refine Table.eq_of_entries ?_
  rw [Table.entries_filter, entries_learn hapart, entries_learn hn, List.filter_map]
  rfl

theorem needsSecrets_apartFrom (hn : (hs.map Hints.ecosystem).Nodup)
    (hsilent : ∀ h ∈ hs, h.ecosystem = e → h = .silent e) (language : Option Language) :
    needsSecrets s.tree root (learn s root language (apartFrom e hs)).dependencies =
      needsSecrets s.tree root (learn s root language hs).dependencies := by
  suffices hnode : ((learn s root language (apartFrom e hs)).dependencies.get? .node).getD ∅ =
      ((learn s root language hs).dependencies.get? .node).getD ∅ by
    rw [needsSecrets, needsSecrets, hnode]
  rw [dependencies_learn_apartFrom hn, Table.get?_filter _ fun k => decide (k ≠ e)]
  by_cases he : Ecosystem.node = e
  · -- The ecosystem that secrets hang on is the one that is gone; it had no packages.
    rw [if_neg (by simpa using he)]
    cases hv : (learn s root language hs).dependencies.get? .node with
    | none => rfl
    | some versions =>
      rw [Table.get?, Entries.get?_eq_some_iff (Table.nodup _), entries_learn hn] at hv
      obtain ⟨h, hh, hpair⟩ := List.mem_map.1 hv
      obtain ⟨hnode, rfl⟩ := Prod.mk.inj hpair
      rw [hsilent h hh (hnode.trans he)]
      rfl
  · rw [if_pos (by simpa using he)]

/-- **What says nothing plays no part in a conclusion**, except that its ecosystem is there. -/
theorem conclude_learn_apartFrom (hn : (hs.map Hints.ecosystem).Nodup)
    (hsilent : ∀ h ∈ hs, h.ecosystem = e → h = .silent e) (language : Option Language) :
    conclude s.tree root (learn s root language (apartFrom e hs)) =
      (conclude s.tree root (learn s root language hs)).without e := by
  have hlanguage : (learn s root language (apartFrom e hs)).language =
      (learn s root language hs).language := by
    rw [language_learn, language_learn, findSome?_apartFrom hsilent rfl]
  have hnamed : (learn s root language (apartFrom e hs)).named? =
      (learn s root language hs).named? := by
    rw [named?_learn, named?_learn, Resolution.firstNamed?_append, Resolution.firstNamed?_append,
      firstNamed?_offers, firstNamed?_offers, findSome?_apartFrom hsilent rfl]
  obtain ⟨hentrypoint, hguessed⟩ := entrypoint_conclude_congr s.tree root hnamed
  refine Detection.ext ?_ hentrypoint hguessed (dependencies_learn_apartFrom hn language)
    (needsSecrets_apartFrom hn hsilent language)
  rw [without, language_conclude, language_conclude, hlanguage, hnamed]

end

theorem ecosystem_silent_of_mem_sayings (hsilent : saying? s root e = some (.silent e)) :
    ∀ h ∈ sayings s root, h.ecosystem = e → h = .silent e := by
  intro h hh he
  obtain ⟨e', -, hs⟩ := List.mem_filterMap.1 hh
  rw [← ecosystem_of_saying? hs, he, hsilent] at hs
  exact (Option.some.inj hs).symm

/-- **A manifest that says nothing is as good as removed**, whatever language is forced: detection
fails as it does without the manifest, or gives the fingerprint that it gives without it, to which
the ecosystem comes with no packages. -/
theorem resolve_silent (h : SaysNothing s root e) (forced : String) :
    (∀ d, (resolve s root forced).outcome = .ok d → d.dependencies.get? e = some ∅) ∧
      (resolve { s with tree := s.tree.remove (root / e.manifestName) } root forced).outcome =
        (resolve s root forced).outcome.map (·.without e) := by
  have hsilent := saying?_of_saysNothing h
  have hdiffer := differAtFile_remove s.tree (root / e.manifestName)
  refine ⟨fun d hd => by rw [get?_dependencies hd, hsilent]; rfl, ?_⟩
  rw [outcome_resolve, outcome_resolve, gather_apartFrom h.isFile hdiffer
    (isFile_remove (isName_manifestName e) h.isFile) hsilent]
  cases hg : gather s root with
  | error failure => rfl
  | ok hs =>
    obtain ⟨hr, rfl⟩ := gather_eq_ok.1 hg
    simp only [Except.map]
    rw [conclude_learn_other h.isFile hdiffer, conclude_learn_apartFrom
      (nodup_ecosystems_sayings hr) (ecosystem_silent_of_mem_sayings hsilent)]

/-- A directory whose package manifest is a list, beside a crate manifest. -/
def listSnapshot : Snapshot where
  tree := {
    entries := Table.ofList [
      (["package.json"], .file "[1]".toUTF8.toList),
      (["Cargo.toml"], .file "[dependencies]\nserde = \"1.0\"\n".toUTF8.toList)] }

/-- The fingerprint of that directory. -/
def listDetection : Detection where
  language := .rust
  entrypoint := "src/main.rs"
  guessed := true
  dependencies := Table.ofList [(.node, ∅), (.rust, Table.ofList [("serde", "1.0")])]

/-- The list comes first and leaves language and entrypoint to the crate manifest. -/
theorem resolve_silent_list :
    SaysNothing listSnapshot Path.here .node ∧
      (resolve { listSnapshot with
          tree := listSnapshot.tree.remove (Path.here / Ecosystem.node.manifestName) }
        Path.here "").outcome = .ok (listDetection.without .node) := by
  have hlist : ∃ value, Json.read "[1]" = .ok value ∧ ∀ members, value ≠ .object members :=
    ⟨_, rfl, nofun⟩
  have htext : (listSnapshot.readLossy (Path.here / Ecosystem.node.manifestName)).toOption =
      some "[1]" := by decide +kernel
  have hnothing : SaysNothing listSnapshot Path.here .node :=
    ⟨by decide +kernel, .inr ⟨.inl rfl, "[1]", toOption_eq_some_iff.1 htext, .inr hlist⟩⟩
  have h : (resolve listSnapshot Path.here "").outcome = .ok listDetection := by decide +kernel
  obtain ⟨-, hremoved⟩ := resolve_silent hnothing ""
  rw [h] at hremoved
  exact ⟨hnothing, hremoved⟩

/-! ## A manifest that says something else -/

/-- What the manifests say that come before that of an ecosystem. -/
def earlier (s : Snapshot) (root : Path) (e : Ecosystem) : List Hints :=
  e.before.filterMap (saying? s root)

/-- What the manifests say that come after it. -/
def later (s : Snapshot) (root : Path) (e : Ecosystem) : List Hints :=
  e.after.filterMap (saying? s root)

theorem sayings_eq {h : Hints} (hs : saying? s root e = some h) :
    sayings s root = earlier s root e ++ h :: later s root e := by
  rw [sayings, Ecosystem.all_eq_before_after e, List.filterMap_append, List.filterMap_cons_some hs]
  rfl

theorem sayings_other {h' : Hints} (hf : s.tree.isFile (root / e.manifestName) = true)
    (h : DifferAtFile (root / e.manifestName) s.tree t')
    (hs' : saying? { s with tree := t' } root e = some h') :
    sayings { s with tree := t' } root = earlier s root e ++ h' :: later s root e := by
  have hearlier : earlier { s with tree := t' } root e = earlier s root e :=
    List.filterMap_congr fun e' he => saying?_other hf h (Ecosystem.ne_of_mem_before he)
  have hlater : later { s with tree := t' } root e = later s root e :=
    List.filterMap_congr fun e' he => saying?_other hf h (Ecosystem.ne_of_mem_after he)
  rw [sayings_eq hs', hearlier, hlater]

/-- A language that is forced or named first hangs on nothing that comes after. -/
theorem language_conclude_append {language : Option Language} {pre : List Hints}
    (h : language.isSome ∨ ∃ k ∈ pre, k.language.isSome) (hs hs' : List Hints) :
    (conclude s.tree root (learn s root language (pre ++ hs'))).language =
      (conclude s.tree root (learn s root language (pre ++ hs))).language := by
  obtain ⟨l, hl⟩ : ∃ l, (language <|> pre.findSome? Hints.language) = some l := by
    rw [← Option.isSome_iff_exists]
    cases language with
    | some l => rfl
    | none => exact List.findSome?_isSome_iff.2 (h.resolve_left Bool.false_ne_true)
  have hknown : ∀ hs, (learn s root language (pre ++ hs)).language = some l := by
    intro hs
    rw [language_learn, List.findSome?_append]
    cases language with
    | some _ => exact hl
    | none =>
      have hfirst : pre.findSome? Hints.language = some l := hl
      rw [hfirst]
      rfl
  rw [language_conclude, language_conclude, hknown, hknown]
  rfl

theorem entrypoint_conclude_append {pre : List Hints} (h : ∃ k ∈ pre, k.entrypoint ≠ "")
    (language : Option Language) (hs hs' : List Hints) :
    (conclude s.tree root (learn s root language (pre ++ hs'))).entrypoint =
        (conclude s.tree root (learn s root language (pre ++ hs))).entrypoint ∧
      (conclude s.tree root (learn s root language (pre ++ hs'))).guessed =
        (conclude s.tree root (learn s root language (pre ++ hs))).guessed := by
  obtain ⟨k, hk, hne⟩ := h
  have hsome : (firstNamed? (pre.map Hints.offer)).isSome = true :=
    List.find?_isSome.2 ⟨k.offer, List.mem_map_of_mem hk, by simpa [Hints.offer] using hne⟩
  obtain ⟨o, ho⟩ := Option.isSome_iff_exists.1 hsome
  have hknown : ∀ hs, (learn s root language (pre ++ hs)).named? = some o := by
    intro hs
    rw [named?_learn, List.map_append, List.append_assoc, Resolution.firstNamed?_append, ho]
    rfl
  exact entrypoint_conclude_congr s.tree root ((hknown hs').trans (hknown hs).symm)

/-- **One manifest influences only what it may.** Where two trees differ in the manifest of one
ecosystem alone and both have a fingerprint, the ecosystems are the same and so are the packages of
all others. Secrets hang on that manifest only if it is a package manifest, the language only if
none is forced and no earlier manifest names one, and the entrypoint with its mark only if no
earlier manifest names one. -/
theorem resolve_one_manifest {d d' : Detection}
    (hf : s.tree.isFile (root / e.manifestName) = true)
    (h : DifferAtFile (root / e.manifestName) s.tree t')
    (hf' : t'.isFile (root / e.manifestName) = true)
    (hd : (resolve s root forced).outcome = .ok d)
    (hd' : (resolve { s with tree := t' } root forced).outcome = .ok d') :
    d'.dependencies.keys = d.dependencies.keys ∧
      (∀ e', e' ≠ e → d'.dependencies.get? e' = d.dependencies.get? e') ∧
      (e ≠ .node → d'.secretsRequired = d.secretsRequired) ∧
      ((trim forced.toList ≠ [] ∨ ∃ k ∈ earlier s root e, k.language.isSome) →
        d'.language = d.language) ∧
      ((∃ k ∈ earlier s root e, k.entrypoint ≠ "") →
        d'.entrypoint = d.entrypoint ∧ d'.guessed = d.guessed) := by
  obtain ⟨hr, hconclude⟩ := resolve_eq_ok.1 hd
  obtain ⟨hr', hconclude'⟩ := resolve_eq_ok.1 hd'
  obtain ⟨k, hk⟩ := Option.isSome_iff_exists.1 (hr.sayings e hf)
  obtain ⟨k', hk'⟩ := Option.isSome_iff_exists.1 (hr'.sayings e hf')
  -- Both conclusions are drawn on one side, from lists that differ in one place only.
  have hlearnt : d = conclude s.tree root (learn s root (forcedLanguage forced)
      (earlier s root e ++ k :: later s root e)) := by
    rw [← hconclude, ← sayings_eq hk]
    rfl
  have hlearnt' : d' = conclude s.tree root (learn s root (forcedLanguage forced)
      (earlier s root e ++ k' :: later s root e)) := by
    rw [← hconclude', ← conclude_learn_other hf h, ← sayings_other hf h hk']
    rfl
  have hother : ∀ e', e' ≠ e → d'.dependencies.get? e' = d.dependencies.get? e' := by
    intro e' hne
    rw [get?_dependencies hd, get?_dependencies hd', saying?_other hf h hne]
  refine ⟨?_, hother, fun hne => ?_, fun hlanguage => ?_, fun hentrypoint => ?_⟩
  · have hsame : k'.ecosystem = k.ecosystem :=
      (ecosystem_of_saying? hk').trans (ecosystem_of_saying? hk).symm
    rw [Table.keys, Table.keys, Entries.keys, Entries.keys, entries_dependencies hd,
      entries_dependencies hd', sayings_eq hk, sayings_other hf h hk']
    simp [hsame]
  · have hsecrets : ∀ r, (conclude s.tree root r).secretsRequired =
        needsSecrets s.tree root (conclude s.tree root r).dependencies := fun _ => rfl
    have hnode := hother .node (Ne.symm hne)
    rw [hlearnt, hlearnt'] at hnode ⊢
    rw [hsecrets, hsecrets, needsSecrets, needsSecrets, hnode]
  · rw [hlearnt, hlearnt']
    refine language_conclude_append (hlanguage.imp_left fun hname => ?_) _ _
    rw [forcedLanguage_of_not_blank hname]
    rfl
  · rw [hlearnt, hlearnt']
    exact entrypoint_conclude_append hentrypoint _ _ _

/-- A directory with a crate manifest and a requirement list. -/
def twoSnapshot : Snapshot where
  tree := {
    entries := Table.ofList [
      (["Cargo.toml"], .file "[dependencies]\nserde = \"1.0\"\n".toUTF8.toList),
      (["requirements.txt"], .file "flask==3.0\n".toUTF8.toList)] }

/-- Its tree with another requirement list. -/
def twoTree : FileTree :=
  twoSnapshot.tree.put ["requirements.txt"] (.file "django==5.0\nnext==1\n".toUTF8.toList)

/-- The fingerprint of that directory with some packages of the requirement list. -/
def twoDetection (versions : Versions) : Detection where
  language := .rust
  entrypoint := "src/main.rs"
  guessed := true
  dependencies := Table.ofList [(.rust, Table.ofList [("serde", "1.0")]), (.python, versions)]

/-- The crate manifest comes first, so the other list gives other packages and nothing else. -/
theorem resolve_one_manifest_two :
    (resolve twoSnapshot Path.here "").outcome =
        .ok (twoDetection (Table.ofList [("flask", "3.0")])) ∧
      ∃ d', (resolve { twoSnapshot with tree := twoTree } Path.here "").outcome = .ok d' ∧
        d'.dependencies.keys = [.rust, .python] ∧ d'.secretsRequired = false ∧
        d'.language = .rust ∧ d'.entrypoint = "src/main.rs" ∧ d'.guessed = true := by
  have hd : (resolve twoSnapshot Path.here "").outcome =
      .ok (twoDetection (Table.ofList [("flask", "3.0")])) := by decide +kernel
  have hd' : (resolve { twoSnapshot with tree := twoTree } Path.here "").outcome =
      .ok (twoDetection (Table.ofList [("django", "5.0"), ("next", "1")])) := by decide +kernel
  have hplace : twoSnapshot.tree.locate (Path.here / Ecosystem.python.manifestName) =
      .ok ["requirements.txt"] := by rfl
  have hearlier : ∃ k ∈ earlier twoSnapshot Path.here .python,
      k.language.isSome ∧ k.entrypoint ≠ "" := by decide +kernel
  obtain ⟨k, hk, hlanguage, hentrypoint⟩ := hearlier
  obtain ⟨hkeys, -, hsecrets, hsame, hfirst⟩ := resolve_one_manifest (e := .python)
    (by decide +kernel) (differAtFile_put hplace _) (by decide +kernel) hd hd'
  obtain ⟨hentry, hguessed⟩ := hfirst ⟨k, hk, hentrypoint⟩
  exact ⟨hd, _, hd', hkeys, hsecrets (by decide), hsame (.inr ⟨k, hk, hlanguage⟩), hentry, hguessed⟩

end Detection

end Fingerprint
