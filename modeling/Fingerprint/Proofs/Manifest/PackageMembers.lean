/-
What a package manifest says. Five of its members are looked at, and each may
be missing or be any value (`saidBy_packageHints`); a package that both objects
of packages hold has the version of `dependencies`. The members are known by
their names, so neither their order nor any other member changes what is said
(`SaidBy.of_sameInspected`), and nothing else is said (`SaidBy.unique`).
-/
import Fingerprint.Manifest.Packages
import Fingerprint.Proofs.Detection.Listing
import Fingerprint.Proofs.Json.DistinctMembers

namespace Fingerprint.Packages

open Json

/-- Whether the object under a name holds a package, with this value. -/
def HoldsPackage (d : List (String × Value)) (under name : String) (v : Value) : Prop :=
  ∃ ms, (under, .object ms) ∈ d ∧ (name, v) ∈ ms

/-- Whether a manifest declares a package, with this value in the place of its version. -/
inductive Declares (d : List (String × Value)) (name : String) (v : Value) : Prop where
  | dependency (h : HoldsPackage d "dependencies" name v) : Declares d name v
  | development (hnot : ∀ w, ¬ HoldsPackage d "dependencies" name w)
    (h : HoldsPackage d "devDependencies" name v) : Declares d name v

/-- Whether a manifest says by itself that the project is typed. -/
def DeclaresTypes (d : List (String × Value)) : Prop := ∃ v, ("types", v) ∈ d ∧ v.isTruthy = true

/-- Whether the member under a name is a text, and not the empty one. -/
def HoldsText (d : List (String × Value)) (under text : String) : Prop :=
  (under, .string text) ∈ d ∧ text ≠ ""

/-- The entrypoint that a manifest names, empty if it names none. -/
inductive NamesEntrypoint (d : List (String × Value)) : String → Prop where
  | main {text : String} (h : HoldsText d "main" text) : NamesEntrypoint d text
  | module {text : String} (hmain : ∀ t, ¬ HoldsText d "main" t) (h : HoldsText d "module" text) :
    NamesEntrypoint d text
  | none (hmain : ∀ t, ¬ HoldsText d "main" t) (hmodule : ∀ t, ¬ HoldsText d "module" t) :
    NamesEntrypoint d ""

/-- Whether these hints are what a manifest with these members says; `configured` tells whether a
type configuration stands beside it. -/
structure SaidBy (d : List (String × Value)) (configured : Bool) (h : Hints) : Prop where
  ecosystem : h.ecosystem = .node
  names : ∀ name, name ∈ h.dependencies.keys ↔
    ∃ v, HoldsPackage d "dependencies" name v ∨ HoldsPackage d "devDependencies" name v
  versions : ∀ name version, h.dependencies.get? name = some version ↔
    ∃ v, Declares d name v ∧ v.display = version
  typed : DeclaresTypes d ∨ configured = true → h.language = some .ts
  plain : ¬ (DeclaresTypes d ∨ configured = true) → h.language = some .js
  entrypoint : NamesEntrypoint d h.entrypoint
  known : h.guessed = false

variable {d d' : List (String × Value)} {under name text version : String} {v : Value}
  {configured typed : Bool} {h h' : Hints}

theorem get?_versionsOf (hd : Distinct (.object d)) :
    (versionsOf (Entries.get? under d)).get? name = some version ↔
      ∃ v, HoldsPackage d under name v ∧ v.display = version := by
  unfold versionsOf
  split
  next ms hms =>
    have hmem := hd.get?_eq_some_iff.1 hms
    have hinner : Distinct (.object ms) := hd.of_mem hmem
    have hkeys : (Entries.keys (ms.map fun m => (m.1, m.2.display))).Nodup := by
      simpa [Entries.keys, Function.comp_def] using hinner.nodup
    rw [Table.get?_ofList, Entries.last?_eq_get? hkeys, Entries.get?_map, Option.map_eq_some_iff]
    constructor
    · rintro ⟨v, hv, rfl⟩
      exact ⟨v, ⟨ms, hmem, hinner.get?_eq_some_iff.1 hv⟩, rfl⟩
    · rintro ⟨v, ⟨ms', hms', hv⟩, rfl⟩
      cases hms.symm.trans (hd.get?_eq_some_iff.2 hms')
      exact ⟨v, hinner.get?_eq_some_iff.2 hv, rfl⟩
  next hnot =>
    constructor
    · intro hnone
      cases hnone
    · rintro ⟨v, ⟨ms, hms, -⟩, -⟩
      exact absurd (hd.get?_eq_some_iff.2 hms) (hnot ms)

theorem get?_versionsOf_eq_none (hd : Distinct (.object d)) :
    (versionsOf (Entries.get? under d)).get? name = none ↔ ∀ v, ¬ HoldsPackage d under name v := by
  rw [Option.eq_none_iff_forall_ne_some]
  constructor
  · exact fun hnone v hv => hnone v.display ((get?_versionsOf hd).2 ⟨v, hv, rfl⟩)
  · intro hnot version hversion
    obtain ⟨v, hv, -⟩ := (get?_versionsOf hd).1 hversion
    exact hnot v hv

theorem declaresTypes_iff (hd : Distinct (.object d)) :
    declaresTypes (.object d) = true ↔ DeclaresTypes d := by
  have hmember : (Value.object d).member? "types" = Entries.get? "types" d := rfl
  rw [declaresTypes, hmember, Option.any_eq_true]
  simp only [hd.get?_eq_some_iff, DeclaresTypes]

theorem textMember?_eq_some (hd : Distinct (.object d)) :
    textMember? (.object d) under = some text ↔ HoldsText d under text := by
  have hmember : (Value.object d).member? under = Entries.get? under d := rfl
  rw [HoldsText, ← hd.get?_eq_some_iff, textMember?, hmember]
  split
  next s hs =>
    rw [hs]
    by_cases hempty : s = ""
    · subst hempty
      constructor
      · intro hnone
        cases hnone
      · rintro ⟨⟨⟩, hne⟩
        exact absurd rfl hne
    · have hne : s.isEmpty = false := by simpa using hempty
      rw [hne]
      constructor
      · rintro ⟨⟩
        exact ⟨rfl, hempty⟩
      · rintro ⟨⟨⟩, -⟩
        rfl
  next hnot =>
    constructor
    · intro hnone
      cases hnone
    · rintro ⟨ht, -⟩
      exact absurd ht (hnot text)

theorem textMember?_eq_none (hd : Distinct (.object d)) :
    textMember? (.object d) under = none ↔ ∀ t, ¬ HoldsText d under t := by
  simp only [Option.eq_none_iff_forall_ne_some, Ne, textMember?_eq_some hd]

theorem namesEntrypoint_packageHints (hd : Distinct (.object d)) (typed : Bool) :
    NamesEntrypoint d (packageHints typed (.object d)).entrypoint := by
  have hfirst : (packageHints typed (.object d)).entrypoint =
      ((textMember? (.object d) "main").or (textMember? (.object d) "module")).getD "" := by
    cases hmain : textMember? (.object d) "main" with
    | some text => simp [packageHints, hmain]
    | none =>
      cases hmodule : textMember? (.object d) "module" with
      | some text => simp [packageHints, hmain, hmodule]
      | none => simp [packageHints, hmain, hmodule]
  rw [hfirst]
  cases hmain : textMember? (.object d) "main" with
  | some text => exact .main ((textMember?_eq_some hd).1 hmain)
  | none =>
    have hnot := (textMember?_eq_none hd).1 hmain
    cases hmodule : textMember? (.object d) "module" with
    | some text => exact .module hnot ((textMember?_eq_some hd).1 hmodule)
    | none => exact .none hnot ((textMember?_eq_none hd).1 hmodule)

theorem get?_packageHints (hd : Distinct (.object d)) :
    (packageHints typed (.object d)).dependencies.get? name = some version ↔
      ∃ v, Declares d name v ∧ v.display = version := by
  have hupdate : (packageHints typed (.object d)).dependencies.get? name =
      ((versionsOf (Entries.get? "dependencies" d)).get? name).or
        ((versionsOf (Entries.get? "devDependencies" d)).get? name) := Table.get?_update _ _ _
  rw [hupdate, Option.or_eq_some_iff, get?_versionsOf hd, get?_versionsOf hd,
    get?_versionsOf_eq_none hd]
  constructor
  · rintro (⟨v, hv, he⟩ | ⟨hnot, v, hv, he⟩)
    · exact ⟨v, .dependency hv, he⟩
    · exact ⟨v, .development hnot hv, he⟩
  · rintro ⟨v, hv | ⟨hnot, hv⟩, he⟩
    · exact .inl ⟨v, hv, he⟩
    · exact .inr ⟨hnot, v, hv, he⟩

theorem exists_declares_iff : (∃ v, Declares d name v) ↔
    ∃ v, HoldsPackage d "dependencies" name v ∨ HoldsPackage d "devDependencies" name v := by
  constructor
  · rintro ⟨v, hv | ⟨-, hv⟩⟩
    · exact ⟨v, .inl hv⟩
    · exact ⟨v, .inr hv⟩
  · rintro ⟨v, hv⟩
    by_cases hfirst : ∃ w, HoldsPackage d "dependencies" name w
    · obtain ⟨w, hw⟩ := hfirst
      exact ⟨w, .dependency hw⟩
    · have hnot := not_exists.1 hfirst
      exact ⟨v, .development hnot (hv.resolve_left (hnot v))⟩

/-- **A package manifest says what its five members say.** -/
theorem saidBy_packageHints (hd : Distinct (.object d))
    (htyped : typed = true ↔ DeclaresTypes d ∨ configured = true) :
    SaidBy d configured (packageHints typed (.object d)) where
  ecosystem := rfl
  names name := by
    rw [← Table.contains_iff, Table.contains, Option.isSome_iff_exists, ← exists_declares_iff]
    simp only [get?_packageHints hd]
    rw [exists_comm]
    simp
  versions name version := get?_packageHints hd
  typed h := by
    rw [← htyped] at h
    rw [packageHints, h]
    rfl
  plain h := by
    rw [← htyped, Bool.not_eq_true] at h
    rw [packageHints, h]
    rfl
  entrypoint := namesEntrypoint_packageHints hd typed
  known := rfl

/-- Whether two values are the same, or objects with the same members in another order. -/
inductive Reordered : Value → Value → Prop where
  | same (v : Value) : Reordered v v
  | members {ms ms' : List (String × Value)} (h : ms.Perm ms') :
    Reordered (.object ms) (.object ms')

theorem Reordered.isTruthy_eq {w : Value} (hw : Reordered v w) : v.isTruthy = w.isTruthy := by
  cases hw with
  | same => rfl
  | members hperm => rw [Value.isTruthy, Value.isTruthy, hperm.isEmpty_eq]

/-- The names of the members that are looked at. -/
def inspected : List String := ["dependencies", "devDependencies", "types", "main", "module"]

/-- Whether two manifests hold the same under the names that are looked at, wherever these stand and
whatever the order of packages is. -/
def SameInspected (d d' : List (String × Value)) : Prop :=
  ∀ name ∈ inspected, ∀ v,
    (∃ w, Reordered v w ∧ (name, w) ∈ d) ↔ ∃ w, Reordered v w ∧ (name, w) ∈ d'

namespace SameInspected

theorem symm (hs : SameInspected d d') : SameInspected d' d := fun name hname v =>
  (hs name hname v).symm

/-- Only the members under these names matter, and not their order. -/
theorem of_perm
    (hp : (d.filter fun m => m.1 ∈ inspected).Perm (d'.filter fun m => m.1 ∈ inspected)) :
    SameInspected d d' := by
  intro name hname v
  have hmem : ∀ w, (name, w) ∈ d ↔ (name, w) ∈ d' := fun w => by
    simpa [hname] using hp.mem_iff (a := (name, w))
  simp only [hmem]

theorem exists_mem (hs : SameInspected d d') (hu : under ∈ inspected) (hv : (under, v) ∈ d) :
    ∃ w, Reordered v w ∧ (under, w) ∈ d' :=
  (hs under hu v).1 ⟨v, .same v, hv⟩

theorem holdsPackage (hs : SameInspected d d') (hu : under ∈ inspected)
    (hp : HoldsPackage d under name v) : HoldsPackage d' under name v := by
  obtain ⟨ms, hms, hv⟩ := hp
  obtain ⟨w, hw, hmem⟩ := hs.exists_mem hu hms
  cases hw with
  | same => exact ⟨ms, hmem, hv⟩
  | members hperm => exact ⟨_, hmem, hperm.mem_iff.1 hv⟩

theorem declares (hs : SameInspected d d') (hv : Declares d name v) : Declares d' name v := by
  have hfirst : "dependencies" ∈ inspected := by decide
  cases hv with
  | dependency hv => exact .dependency (hs.holdsPackage hfirst hv)
  | development hnot hv =>
    exact .development (fun w hw => hnot w (hs.symm.holdsPackage hfirst hw))
      (hs.holdsPackage (by decide) hv)

theorem declares_iff (hs : SameInspected d d') : Declares d name v ↔ Declares d' name v :=
  ⟨hs.declares, hs.symm.declares⟩

theorem declaresTypes (hs : SameInspected d d') (ht : DeclaresTypes d) : DeclaresTypes d' := by
  obtain ⟨v, hv, htrue⟩ := ht
  obtain ⟨w, hw, hmem⟩ := hs.exists_mem (by decide) hv
  exact ⟨w, hmem, by rw [← hw.isTruthy_eq, htrue]⟩

theorem declaresTypes_iff (hs : SameInspected d d') : DeclaresTypes d ↔ DeclaresTypes d' :=
  ⟨hs.declaresTypes, hs.symm.declaresTypes⟩

theorem holdsText (hs : SameInspected d d') (hu : under ∈ inspected) (ht : HoldsText d under text) :
    HoldsText d' under text := by
  obtain ⟨hmem, hne⟩ := ht
  obtain ⟨w, hw, hmem'⟩ := hs.exists_mem hu hmem
  cases hw
  exact ⟨hmem', hne⟩

theorem namesEntrypoint (hs : SameInspected d d') (he : NamesEntrypoint d text) :
    NamesEntrypoint d' text := by
  have hmain : "main" ∈ inspected := by decide
  have hmodule : "module" ∈ inspected := by decide
  cases he with
  | main h => exact .main (hs.holdsText hmain h)
  | module hnot h =>
    exact .module (fun t ht => hnot t (hs.symm.holdsText hmain ht)) (hs.holdsText hmodule h)
  | none hnot hnot' =>
    exact .none (fun t ht => hnot t (hs.symm.holdsText hmain ht))
      fun t ht => hnot' t (hs.symm.holdsText hmodule ht)

end SameInspected

/-- **Order and other members do not change what a manifest says.** -/
theorem SaidBy.of_sameInspected (hsaid : SaidBy d configured h) (hs : SameInspected d d') :
    SaidBy d' configured h where
  ecosystem := hsaid.ecosystem
  names name := by
    rw [hsaid.names, ← exists_declares_iff, ← exists_declares_iff]
    simp only [hs.declares_iff]
  versions name version := by
    rw [hsaid.versions]
    simp only [hs.declares_iff]
  typed ht := hsaid.typed (by rwa [hs.declaresTypes_iff])
  plain ht := hsaid.plain (by rwa [hs.declaresTypes_iff])
  entrypoint := hs.namesEntrypoint hsaid.entrypoint
  known := hsaid.known

theorem HoldsText.unique (hd : Distinct (.object d)) {t t' : String} (ht : HoldsText d under t)
    (ht' : HoldsText d under t') : t = t' := by
  have hsame := hd.get?_eq_some_iff.2 ht.1
  cases hsame.symm.trans (hd.get?_eq_some_iff.2 ht'.1)
  rfl

theorem NamesEntrypoint.unique (hd : Distinct (.object d)) {t t' : String}
    (ht : NamesEntrypoint d t) (ht' : NamesEntrypoint d t') : t = t' := by
  cases ht with
  | main h =>
    cases ht' with
    | main h' => exact h.unique hd h'
    | module hnot => exact absurd h (hnot t)
    | none hnot => exact absurd h (hnot t)
  | module hnot h =>
    cases ht' with
    | main h' => exact absurd h' (hnot t')
    | module _ h' => exact h.unique hd h'
    | none _ hnot' => exact absurd h (hnot' t)
  | none hnot hnot' =>
    cases ht' with
    | main h' => exact absurd h' (hnot t')
    | module _ h' => exact absurd h' (hnot' t')
    | none => rfl

/-- Whether two manifests say the same, whatever the order of their packages is. -/
structure SayAlike (h h' : Hints) : Prop where
  ecosystem : h.ecosystem = h'.ecosystem
  packages : Table.Same h.dependencies h'.dependencies
  language : h.language = h'.language
  entrypoint : h.entrypoint = h'.entrypoint
  guessed : h.guessed = h'.guessed

/-- **A manifest says one thing only.** -/
theorem SaidBy.unique (hd : Distinct (.object d)) (hsaid : SaidBy d configured h)
    (hsaid' : SaidBy d configured h') : SayAlike h h' where
  ecosystem := by rw [hsaid.ecosystem, hsaid'.ecosystem]
  packages name := by
    ext version
    rw [hsaid.versions, hsaid'.versions]
  language := by
    by_cases ht : DeclaresTypes d ∨ configured = true
    · rw [hsaid.typed ht, hsaid'.typed ht]
    · rw [hsaid.plain ht, hsaid'.plain ht]
  entrypoint := hsaid.entrypoint.unique hd hsaid'.entrypoint
  guessed := by rw [hsaid.known, hsaid'.known]

end Fingerprint.Packages
