/-
What the checker answers. The requirements are said without it, by what a
document holds at a path of names: `IsManifest` is what a manifest has to be,
`Breaks` which requirement a problem reports as broken, and `Precedes` the
order of reports. The checker lists the broken requirements, each once and in
this order, and so nothing for a manifest and nothing but one (`check_reports`).
-/
import Fingerprint.Artifact.Check
import Fingerprint.Proofs.Toml.Distinct
import Mathlib.Data.List.Basic

namespace Fingerprint.Artifact

open Toml Entries

/-! ## Requirements -/

/-- Whether a value maps names to strings. -/
def IsPackageTable (v : Value) : Prop :=
  ∃ packages, v = .table packages ∧ ∀ m ∈ packages, ∃ version, m.2 = .string version

/-- What a document has to be for a manifest. -/
structure IsManifest (doc : Members) : Prop where
  repository : ∀ key ∈ ["project", "version", "entry", "language"],
    ∃ s, s ≠ "" ∧ Holds doc ["repository", key] (.string s)
  language : ∃ l : Language, Holds doc ["repository", "language"] (.string l.name)
  isolation : Holds doc ["runtime", "isolation"] (.string "v8") ∨
    Holds doc ["runtime", "isolation"] (.string "wasm")
  timeout : ∃ n, 0 < n ∧ Holds doc ["runtime", "timeout"] (.int n)
  memory : ∃ n, 0 < n ∧ Holds doc ["runtime", "memory"] (.int n)
  secrets : ∃ b, Holds doc ["secrets", "runtime"] (.bool b)
  dependencies : ∀ v, Holds doc ["dependencies"] v →
    ∃ tables, v = .table tables ∧ ∀ m ∈ tables, IsPackageTable m.2

/-- Whether a document breaks the requirement that a problem is about. A section that is missing
breaks what is required of its keys too, but for the runtime section. -/
def Breaks (doc : Members) : Problem → Prop
  | .notDocument _ => False
  | .noRepository => ¬ ∃ ms, Holds doc ["repository"] (.table ms)
  | .noRepositoryKey key => key ∈ ["project", "version", "entry", "language"] ∧
      ¬ ∃ s, s ≠ "" ∧ Holds doc ["repository", key] (.string s)
  | .unsupportedLanguage name => name ≠ "" ∧
      Holds doc ["repository", "language"] (.string name) ∧ ∀ l : Language, l.name ≠ name
  | .noRuntime => ¬ ∃ ms, Holds doc ["runtime"] (.table ms)
  | .isolation => (∃ ms, Holds doc ["runtime"] (.table ms)) ∧
      ¬ (Holds doc ["runtime", "isolation"] (.string "v8") ∨
        Holds doc ["runtime", "isolation"] (.string "wasm"))
  | .timeout => (∃ ms, Holds doc ["runtime"] (.table ms)) ∧
      ¬ ∃ n, 0 < n ∧ Holds doc ["runtime", "timeout"] (.int n)
  | .memory => (∃ ms, Holds doc ["runtime"] (.table ms)) ∧
      ¬ ∃ n, 0 < n ∧ Holds doc ["runtime", "memory"] (.int n)
  | .secrets => ¬ ∃ b, Holds doc ["secrets", "runtime"] (.bool b)
  | .dependencies => ∃ v, Holds doc ["dependencies"] v ∧ ∀ tables, v ≠ .table tables
  | .ecosystem name => ∃ v, Holds doc ["dependencies", name] v ∧ ¬ IsPackageTable v

/-- The place of a problem among the reports. -/
def Problem.place : Problem → Nat
  | notDocument _ => 0
  | noRepository => 1
  | noRepositoryKey key => 2 + ["project", "version", "entry", "language"].idxOf key
  | unsupportedLanguage _ => 6
  | noRuntime => 7
  | isolation => 8
  | timeout => 9
  | memory => 10
  | secrets => 11
  | dependencies => 12
  | ecosystem _ => 13

/-- Whether a problem is reported before another one; tables of packages are in the order of the
document. -/
def Precedes (doc : Members) (p q : Problem) : Prop :=
  p.place < q.place ∨
    ∃ tables name name', Holds doc ["dependencies"] (.table tables) ∧
      [name, name'].Sublist (keys tables) ∧ p = .ecosystem name ∧ q = .ecosystem name'

/-- Whether a list holds exactly the requirements that a document breaks, each once and in order. -/
structure Reports (doc : Members) (ps : List Problem) : Prop where
  mem_iff : ∀ p, p ∈ ps ↔ Breaks doc p
  nodup : ps.Nodup
  ordered : ps.Pairwise (Precedes doc)

variable {doc ms : Members} {name within : String} {v : Value} {p : Problem}

theorem holds_section (h : Holds doc [within, name] v) : ∃ ms, Holds doc [within] (.table ms) := by
  obtain ⟨ms, hms, -⟩ := h.deeper_cases
  exact ⟨ms, .member hms⟩

theorem IsManifest.not_breaks (h : IsManifest doc) (hd : Distinct (.table doc)) (p : Problem) :
    ¬ Breaks doc p := by
  intro hp
  cases p with
  | notDocument => exact hp
  | noRepository =>
    obtain ⟨s, -, hs⟩ := h.repository "project" (by decide)
    exact hp (holds_section hs)
  | noRepositoryKey key => exact hp.2 (h.repository key hp.1)
  | unsupportedLanguage name =>
    obtain ⟨-, hname, hnone⟩ := hp
    obtain ⟨l, hl⟩ := h.language
    cases hl.unique hd hname
    exact hnone l rfl
  | noRuntime =>
    obtain ⟨n, -, hn⟩ := h.timeout
    exact hp (holds_section hn)
  | isolation => exact hp.2 h.isolation
  | timeout => exact hp.2 h.timeout
  | memory => exact hp.2 h.memory
  | secrets => exact hp h.secrets
  | dependencies =>
    obtain ⟨v, hv, hne⟩ := hp
    obtain ⟨tables, rfl, -⟩ := h.dependencies v hv
    exact hne tables rfl
  | ecosystem name =>
    obtain ⟨v, hv, hbroken⟩ := hp
    obtain ⟨t, ht, hmem⟩ := hv.deeper_cases
    obtain ⟨tables, heq, htables⟩ := h.dependencies _ (.member ht)
    cases heq
    exact hbroken (htables _ hmem)

/-- A document that breaks no requirement is a manifest. -/
theorem isManifest_of_not_breaks (h : ∀ p, ¬ Breaks doc p) : IsManifest doc := by
  have hruntime : ∃ ms, Holds doc ["runtime"] (.table ms) := Classical.not_not.1 (h .noRuntime)
  have hkeys : ∀ key ∈ ["project", "version", "entry", "language"],
      ∃ s, s ≠ "" ∧ Holds doc ["repository", key] (.string s) :=
    fun key hkey => Classical.not_not.1 fun hnone => h (.noRepositoryKey key) ⟨hkey, hnone⟩
  refine ⟨hkeys, ?_, ?_, ?_, ?_, Classical.not_not.1 (h .secrets), fun v hv => ?_⟩
  · obtain ⟨name, hne, hname⟩ := hkeys "language" (by decide)
    refine Classical.byContradiction fun hnone => ?_
    refine h (.unsupportedLanguage name) ⟨hne, hname, fun l hl => hnone ⟨l, ?_⟩⟩
    rwa [hl]
  · exact Classical.not_not.1 fun hnone => h .isolation ⟨hruntime, hnone⟩
  · exact Classical.not_not.1 fun hnone => h .timeout ⟨hruntime, hnone⟩
  · exact Classical.not_not.1 fun hnone => h .memory ⟨hruntime, hnone⟩
  · have htable : ∃ tables, v = .table tables := Classical.byContradiction fun hnone =>
      h .dependencies ⟨v, hv, fun tables htable => hnone ⟨tables, htable⟩⟩
    obtain ⟨tables, rfl⟩ := htable
    refine ⟨tables, rfl, fun m hm => Classical.byContradiction fun hbroken => ?_⟩
    exact h (.ecosystem m.1) ⟨m.2, .deeper hv.mem (.member hm), hbroken⟩

theorem isManifest_iff (hd : Distinct (.table doc)) : IsManifest doc ↔ ∀ p, ¬ Breaks doc p :=
  ⟨fun h => h.not_breaks hd, isManifest_of_not_breaks⟩

/-! ## Sections -/

theorem section?_eq_some_iff : section? doc name = some ms ↔ get? name doc = some (.table ms) := by
  rw [section?]
  cases get? name doc with
  | none => simp
  | some v => cases v <;> simp [Value.table?]

theorem isNone_section?_iff (hd : Distinct (.table doc)) :
    (section? doc name).isNone ↔ ¬ ∃ ms, Holds doc [name] (.table ms) := by
  simp [holds_member_iff hd, ← section?_eq_some_iff, Option.eq_none_iff_forall_ne_some]

theorem holds_section_iff (hd : Distinct (.table doc)) : Holds doc [within, name] v ↔
    ∃ ms, section? doc within = some ms ∧ get? name ms = some v := by
  simp only [holds_deeper_iff hd, section?_eq_some_iff]

theorem text?_eq_some_iff {s : String} :
    text? ms name = some s ↔ s ≠ "" ∧ get? name ms = some (.string s) := by
  rw [text?, Option.filter_eq_some_iff, and_comm]
  cases get? name ms with
  | none => simp
  | some v => cases v <;> simp +contextual [Value.string?]

theorem text?_section_iff (hd : Distinct (.table doc)) {s : String} :
    text? ((section? doc within).getD []) name = some s ↔
      s ≠ "" ∧ Holds doc [within, name] (.string s) := by
  rw [holds_section_iff hd, text?_eq_some_iff]
  cases section? doc within with
  | none => simp [get?]
  | some ms => simp

theorem isNone_withName?_iff {s : String} :
    (Language.withName? s).isNone ↔ ∀ l : Language, l.name ≠ s := by
  simp [Language.withName?, Language.mem_all]

/-- **The repository section is reported on as required.** -/
theorem mem_repositoryProblems_iff (hd : Distinct (.table doc)) :
    p ∈ repositoryProblems doc ↔ Breaks doc p ∧
      (p = .noRepository ∨ (∃ key, p = .noRepositoryKey key) ∨ ∃ s, p = .unsupportedLanguage s) := by
  have hkey : ∀ key, (text? ((section? doc "repository").getD []) key).isNone ↔
      ¬ ∃ s, s ≠ "" ∧ Holds doc ["repository", key] (.string s) := fun key => by
    simp only [← text?_section_iff hd, Option.isNone_iff_eq_none, Option.eq_none_iff_forall_ne_some,
      not_exists, ne_eq]
  have hlanguage : ∀ name, Breaks doc (.unsupportedLanguage name) ↔
      text? ((section? doc "repository").getD []) "language" = some name ∧
        (Language.withName? name).isNone := fun name => by
    rw [text?_section_iff hd, isNone_withName?_iff, and_assoc]
    rfl
  simp only [repositoryProblems, List.mem_append, List.mem_ite_nil_right, List.mem_map,
    List.mem_filter, hkey, isNone_section?_iff hd, repositoryKeys]
  -- The language is looked at again only where it is given.
  cases htext : text? ((section? doc "repository").getD []) "language" with
  | none =>
    cases p with
    | unsupportedLanguage => simp [hlanguage, htext]
    | _ => simp [Breaks]
  | some name =>
    cases p with
    | unsupportedLanguage s =>
      by_cases h : name = s
      · simp [hlanguage, htext, h]
      · simp [hlanguage, htext, h, Ne.symm h]
    | _ => simp [Breaks]

theorem holdsPositive_iff :
    holdsPositive ms name = true ↔ ∃ n, 0 < n ∧ get? name ms = some (.int n) := by
  unfold holdsPositive
  split
  next n hn => simp [hn]
  next hnone => simpa using fun n _ => hnone n

theorem holdsBoolean_iff : holdsBoolean ms name = true ↔ ∃ b, get? name ms = some (.bool b) := by
  unfold holdsBoolean
  split
  next b hb => simp [hb]
  next hnone => simpa using hnone

theorem isNone_isolation_iff : ((text? ms name) >>= Isolation.withName?).isNone ↔
    ¬ (get? name ms = some (.string "v8") ∨ get? name ms = some (.string "wasm")) := by
  have hknown : ∀ s, (Isolation.withName? s).isSome ↔ s = "v8" ∨ s = "wasm" := by
    intro s
    simp [Isolation.withName?, Isolation.name, @eq_comm _ s]
  have htext : ∀ s, s ≠ "" → (get? name ms = some (.string s) ↔ text? ms name = some s) := by
    intro s hs
    simp [text?_eq_some_iff, hs]
  rw [htext "v8" (by decide), htext "wasm" (by decide)]
  cases text? ms name with
  | none => simp
  | some s => simp [← hknown]

/-- **The runtime section is reported on as required.** -/
theorem mem_runtimeProblems_iff (hd : Distinct (.table doc)) :
    p ∈ runtimeProblems doc ↔ Breaks doc p ∧
      (p = .noRuntime ∨ p = .isolation ∨ p = .timeout ∨ p = .memory) := by
  unfold runtimeProblems
  cases hs : section? doc "runtime" with
  | none =>
    cases p <;> simp [Breaks, holds_section_iff hd, holds_member_iff hd, ← section?_eq_some_iff, hs]
  | some ms =>
    simp only [List.mem_append, List.mem_ite_nil_right, List.mem_ite_nil_left, isNone_isolation_iff,
      holdsPositive_iff, List.mem_singleton]
    cases p <;>
      simp [Breaks, holds_section_iff hd, holds_member_iff hd, ← section?_eq_some_iff, hs]

/-- **The secrets section is reported on as required.** -/
theorem mem_secretsProblems_iff (hd : Distinct (.table doc)) :
    p ∈ secretsProblems doc ↔ Breaks doc p ∧ p = .secrets := by
  have hboolean : (section? doc "secrets").any (holdsBoolean · "runtime") ↔
      ∃ b, Holds doc ["secrets", "runtime"] (.bool b) := by
    simp only [Option.any_eq_true, holdsBoolean_iff, holds_section_iff hd]
    constructor
    · rintro ⟨ms, hs, b, hb⟩
      exact ⟨b, ms, hs, hb⟩
    · rintro ⟨b, ms, hs, hb⟩
      exact ⟨ms, hs, b, hb⟩
  simp only [secretsProblems, List.mem_ite_nil_left, hboolean, List.mem_singleton]
  cases p <;> simp [Breaks]

theorem isTextTable_iff : isTextTable v = true ↔ IsPackageTable v := by
  cases v with
  | table packages =>
    have hstring : ∀ v : Value, v.string?.isSome ↔ ∃ version, v = .string version := fun v => by
      cases v <;> simp [Value.string?]
    simp [isTextTable, IsPackageTable, hstring]
  | _ => simp [isTextTable, IsPackageTable]

/-- **The tables of packages are reported on as required.** -/
theorem mem_dependencyProblems_iff (hd : Distinct (.table doc)) :
    p ∈ dependencyProblems doc ↔ Breaks doc p ∧
      (p = .dependencies ∨ ∃ name, p = .ecosystem name) := by
  unfold dependencyProblems
  split
  next hnone =>
    cases p <;> simp [Breaks, holds_member_iff hd, holds_deeper_iff hd, hnone]
  next tables htables =>
    have hmem : ∀ name v, get? name tables = some v ↔ (name, v) ∈ tables := fun name v =>
      get?_eq_some_iff (hd.get? htables).nodup
    cases p <;>
      simp [Breaks, holds_member_iff hd, holds_deeper_iff hd, htables, ← isTextTable_iff, hmem]
  next v hne hv =>
    have hv' : ∀ tables, v ≠ .table tables := hne
    cases p <;> simp [Breaks, holds_member_iff hd, holds_deeper_iff hd, hv, hv']

/-! ## Order -/

/-- The problems that do not concern packages, in order; `name` is that of the language. -/
def fixedProblems (name : String) : List Problem :=
  .noRepository :: repositoryKeys.map .noRepositoryKey ++ [.unsupportedLanguage name]
    ++ [.noRuntime, .isolation, .timeout, .memory] ++ [.secrets]

theorem pairwise_fixedProblems (name : String) :
    (fixedProblems name).Pairwise fun p q => p.place < q.place := by
  simp [fixedProblems, repositoryKeys, Problem.place]

theorem place_le_of_mem_fixedProblems (h : p ∈ fixedProblems name) :
    p.place ≤ Problem.secrets.place := by
  have hbefore := (List.pairwise_append.1 (pairwise_fixedProblems name)).2.2
  rcases List.mem_append.1 h with hfront | hlast
  · exact Nat.le_of_lt (hbefore p hfront .secrets (List.mem_singleton_self _))
  · cases List.mem_singleton.1 hlast
    exact Nat.le_refl _

theorem sublist_of_reported (c : Prop) [Decidable c] (p : Problem) :
    (if c then [p] else []).Sublist [p] := by
  split
  next => exact .refl _
  next => exact List.nil_sublist _

theorem sublist_of_required (c : Prop) [Decidable c] (p : Problem) :
    (if c then [] else [p]).Sublist [p] := by
  split
  next => exact List.nil_sublist _
  next => exact .refl _

theorem repositoryProblems_sublist (doc : Members) : ∃ name, (repositoryProblems doc).Sublist
    (.noRepository :: repositoryKeys.map .noRepositoryKey ++ [.unsupportedLanguage name]) := by
  have hkeys := List.filter_sublist
    (p := fun k => (text? ((section? doc "repository").getD []) k).isNone) (l := repositoryKeys)
  have hfront := (sublist_of_reported ((section? doc "repository").isNone) .noRepository).append
    (hkeys.map Problem.noRepositoryKey)
  simp only [repositoryProblems]
  cases text? ((section? doc "repository").getD []) "language" with
  | none => exact ⟨"", hfront.append (List.nil_sublist _)⟩
  | some name => exact ⟨name, hfront.append (sublist_of_reported _ _)⟩

theorem runtimeProblems_sublist (doc : Members) :
    (runtimeProblems doc).Sublist [.noRuntime, .isolation, .timeout, .memory] := by
  unfold runtimeProblems
  split
  next => exact List.singleton_sublist.2 List.mem_cons_self
  next =>
    exact (((sublist_of_reported _ _).append (sublist_of_required _ _)).append
      (sublist_of_required _ _)).trans (List.sublist_cons_self _ _)

theorem sections_sublist (doc : Members) : ∃ name,
    (repositoryProblems doc ++ runtimeProblems doc ++ secretsProblems doc).Sublist
      (fixedProblems name) := by
  obtain ⟨name, hrepository⟩ := repositoryProblems_sublist doc
  exact ⟨name, (hrepository.append (runtimeProblems_sublist doc)).append (sublist_of_required _ _)⟩

theorem ordered_dependencyProblems (hd : Distinct (.table doc)) :
    (dependencyProblems doc).Pairwise (Precedes doc) := by
  unfold dependencyProblems
  split
  next => exact .nil
  next tables htables =>
    rw [List.pairwise_map, List.pairwise_iff_forall_sublist]
    intro m m' hsub
    have hnames := (hsub.trans List.filter_sublist).map Prod.fst
    exact .inr ⟨tables, m.1, m'.1, (holds_member_iff hd).2 htables, hnames, rfl, rfl⟩
  next => exact List.pairwise_singleton _ _

theorem idxOf_lt_of_sublist {names : List String} {a b : String} (hn : names.Nodup)
    (h : [a, b].Sublist names) : names.idxOf a < names.idxOf b := by
  have hall : names.Pairwise fun x y => names.idxOf x < names.idxOf y := by
    rw [List.pairwise_iff_getElem]
    intro i j hi hj hij
    rwa [hn.idxOf_getElem i hi, hn.idxOf_getElem j hj]
  exact List.pairwise_iff_forall_sublist.1 hall h

theorem not_precedes (hd : Distinct (.table doc)) {p q : Problem} (h : Precedes doc p q) :
    ¬ Precedes doc q p := by
  rintro (hlt' | ⟨tables', b, a, htables', hnames', hq, hp⟩)
  · rcases h with hlt | ⟨_, _, _, _, _, rfl, rfl⟩
    · exact Nat.lt_asymm hlt hlt'
    · exact Nat.lt_irrefl _ hlt'
  · subst hp hq
    rcases h with hlt | ⟨tables, _, _, htables, hnames, hp, hq⟩
    · exact Nat.lt_irrefl _ hlt
    · cases hp
      cases hq
      have htables := (holds_member_iff hd).1 htables
      cases htables.symm.trans ((holds_member_iff hd).1 htables')
      have hn := (hd.get? htables).nodup
      exact Nat.lt_asymm (idxOf_lt_of_sublist hn hnames) (idxOf_lt_of_sublist hn hnames')

theorem ordered_problemsOf (hd : Distinct (.table doc)) :
    (problemsOf doc).Pairwise (Precedes doc) := by
  obtain ⟨name, hfixed⟩ := sections_sublist doc
  refine List.pairwise_append.2 ⟨?_, ordered_dependencyProblems hd, fun p hp q hq => .inl ?_⟩
  · exact ((pairwise_fixedProblems name).sublist hfixed).imp .inl
  -- Whatever concerns packages has a place behind the last of the sections.
  · refine Nat.lt_of_le_of_lt (place_le_of_mem_fixedProblems (hfixed.subset hp)) ?_
    obtain ⟨-, rfl | ⟨name, rfl⟩⟩ := (mem_dependencyProblems_iff hd).1 hq <;> simp [Problem.place]

/-! ## The report -/

theorem reports_problemsOf (hd : Distinct (.table doc)) : Reports doc (problemsOf doc) where
  mem_iff p := by
    simp only [problemsOf, List.mem_append, mem_repositoryProblems_iff hd, mem_runtimeProblems_iff hd,
      mem_secretsProblems_iff hd, mem_dependencyProblems_iff hd]
    cases p <;> simp [Breaks]
  nodup := (ordered_problemsOf hd).imp fun {p q} h => by
    rintro rfl
    exact not_precedes hd h h
  ordered := ordered_problemsOf hd

theorem Reports.unique (hd : Distinct (.table doc)) {ps qs : List Problem} (h : Reports doc ps)
    (h' : Reports doc qs) : ps = qs := by
  have hperm : ps.Perm qs := (List.perm_ext_iff_of_nodup h.nodup h'.nodup).2 fun p =>
    (h.mem_iff p).trans (h'.mem_iff p).symm
  exact hperm.eq_of_pairwise (fun p q _ _ hpq hqp => absurd hqp (not_precedes hd hpq)) h.ordered
    h'.ordered

/-- **The checker reports what a document breaks**: every requirement that is broken, each once and
in order, which leaves one answer only; it is empty just for a manifest. A text that is no document
has that one problem. -/
theorem check_reports (text : String) :
    (∀ doc, Toml.read text = .ok doc →
      ∃ ps, check text = .ok ps ∧ (∀ qs, Reports doc qs ↔ qs = ps) ∧ (ps = [] ↔ IsManifest doc)) ∧
    ∀ cause position, Toml.read text = .error (.violated cause position) →
      check text = .ok [.notDocument (.violated cause position)] := by
  constructor
  · intro doc hread
    have hd := distinct_of_read hread
    have hreports := reports_problemsOf hd
    refine ⟨problemsOf doc, by rw [check, hread], fun qs => ⟨fun h => h.unique hd hreports, ?_⟩, ?_⟩
    · rintro rfl
      exact hreports
    · simp only [isManifest_iff hd, List.eq_nil_iff_forall_not_mem, hreports.mem_iff]
  · intro cause position hread
    rw [check, hread]

/-- A document that breaks requirements of every section. -/
def crookedManifest : String :=
  "dependencies.go.a = 1\nrepository.entry = ''\nrepository.language = 'cobol'\nruntime.timeout = 9\n"

theorem check_reports_crooked :
    (∃ doc, Toml.read crookedManifest = .ok doc ∧ ¬ IsManifest doc ∧
      Reports doc [.noRepositoryKey "project", .noRepositoryKey "version", .noRepositoryKey "entry",
        .unsupportedLanguage "cobol", .isolation, .memory, .secrets, .ecosystem "go"]) ∧
    check "[repository\n" = .ok [.notDocument (.violated .tableBracket (some ⟨11, 1, 12⟩))] := by
  constructor
  · have hcheck : check crookedManifest = .ok [.noRepositoryKey "project",
        .noRepositoryKey "version", .noRepositoryKey "entry", .unsupportedLanguage "cobol",
        .isolation, .memory, .secrets, .ecosystem "go"] := by decide +kernel
    cases hdoc : Toml.read crookedManifest with
    | error e => cases e <;> simp [check, hdoc] at hcheck
    | ok doc =>
      obtain ⟨ps, hps, hreports, hempty⟩ := (check_reports crookedManifest).1 doc hdoc
      cases hps.symm.trans hcheck
      exact ⟨doc, rfl, fun h => List.cons_ne_nil _ _ (hempty.2 h), (hreports _).2 rfl⟩
  · exact (check_reports "[repository\n").2 _ _ (by rfl)

end Fingerprint.Artifact
