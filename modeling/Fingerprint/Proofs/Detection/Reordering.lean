/-
Which orders of the manifests lead to the same. Each part of what is known is
written by some of the manifests only and hangs on no other part, so it comes
from these manifests in their order, whatever stands between them
(`view_adoptAll_filter`). Two rows of manifests that have the same ones for
each part therefore lead to the same (`agrees_of_rearranges`); packages of
different ecosystems may come in either order.
-/
import Fingerprint.Proofs.Detection.Provenance

namespace Fingerprint.Resolution

variable {r r' : Resolution} {hs hs' : List Hints}

/-- Whether two resolutions know the same. Ecosystems may have come in another order. -/
structure Agrees (r r' : Resolution) : Prop where
  language : r.language = r'.language
  entrypoint : r.entrypoint = r'.entrypoint
  guessed : r.guessed = r'.guessed
  dependencies : ∀ e, r.dependencies.get? e = r'.dependencies.get? e

/-- Whether two rows of manifests have the same manifests of each ecosystem, the same that name a
language and the same that name an entrypoint, each time in the same order. -/
structure Rearranges (hs hs' : List Hints) : Prop where
  ecosystem : ∀ e, (hs.filter fun h => h.ecosystem = e) = hs'.filter fun h => h.ecosystem = e
  language : (hs.filter fun h => h.language.isSome) = hs'.filter fun h => h.language.isSome
  entrypoint : (hs.filter fun h => !h.entrypoint.isEmpty) = hs'.filter fun h => !h.entrypoint.isEmpty

/-- A part of what is known that only the manifests accepted by `p` write, and that hangs on no
other part, comes from these manifests alone. -/
theorem view_adoptAll_filter {α : Type} (view : Resolution → α) {p : Hints → Bool}
    (hskip : ∀ r h, p h = false → view (r.adopt h) = view r)
    (hadopt : ∀ r r' h, view r = view r' → view (r.adopt h) = view (r'.adopt h))
    (hview : view r = view r') (hs : List Hints) :
    view (r.adoptAll hs) = view (r'.adoptAll (hs.filter p)) := by
  induction hs generalizing r r' with
  | nil => exact hview
  | cons h hs ih =>
    rw [adoptAll_cons]
    cases hp : p h with
    | true =>
      rw [List.filter_cons_of_pos hp, adoptAll_cons]
      exact ih (hadopt r r' h hview)
    | false =>
      rw [List.filter_cons_of_neg (by simp [hp])]
      exact ih ((hskip r h hp).trans hview)

theorem adoptAll_nil (r : Resolution) : r.adoptAll [] = r := rfl

theorem language_adoptAll_filter (r : Resolution) (hs : List Hints) :
    (r.adoptAll hs).language = (r.adoptAll (hs.filter fun h => h.language.isSome)).language := by
  refine view_adoptAll_filter Resolution.language (fun r h hp => ?_) (fun r r' h hview => ?_) rfl hs
  · have hnone : h.language = none := by simpa using hp
    rw [language_adopt, hnone]
    cases r.language <;> rfl
  · rw [language_adopt, language_adopt, hview]

/-- A manifest touches the entrypoint and its mark only if it names an entrypoint. -/
theorem adopt_entrypoint (r : Resolution) (h : Hints) :
    ((r.adopt h).entrypoint, (r.adopt h).guessed) =
      if r.entrypoint.isEmpty && !h.entrypoint.isEmpty then h.offer
      else (r.entrypoint, r.guessed) := by
  have hknown : ((r.withDependencies h.ecosystem h.dependencies).withLanguage h.language).entrypoint =
      r.entrypoint := rfl
  rw [adopt, withEntrypoint, hknown]
  split <;> rfl

theorem entrypoint_adoptAll_filter (r : Resolution) (hs : List Hints) :
    ((r.adoptAll hs).entrypoint, (r.adoptAll hs).guessed) =
      ((r.adoptAll (hs.filter fun h => !h.entrypoint.isEmpty)).entrypoint,
        (r.adoptAll (hs.filter fun h => !h.entrypoint.isEmpty)).guessed) := by
  refine view_adoptAll_filter (fun r => (r.entrypoint, r.guessed)) (fun r h hp => ?_)
    (fun r r' h hview => ?_) rfl hs
  · rw [adopt_entrypoint, hp, Bool.and_false]
    rfl
  · obtain ⟨hentrypoint, hguessed⟩ := Prod.mk.inj hview
    rw [adopt_entrypoint, adopt_entrypoint, hentrypoint, hguessed]

theorem get?_dependencies_adopt (r : Resolution) (h : Hints) (e : Ecosystem) :
    (r.adopt h).dependencies.get? e =
      if h.ecosystem = e then some (((r.dependencies.get? e).getD ∅).update h.dependencies)
      else r.dependencies.get? e := by
  rw [dependencies_adopt]
  split
  next he => rw [he, Table.get?_put_self]
  next he => exact Table.get?_put_other _ he _

theorem get?_dependencies_adoptAll_filter (r : Resolution) (hs : List Hints) (e : Ecosystem) :
    (r.adoptAll hs).dependencies.get? e =
      (r.adoptAll (hs.filter fun h => h.ecosystem = e)).dependencies.get? e := by
  refine view_adoptAll_filter (fun r => r.dependencies.get? e) (fun r h hp => ?_)
    (fun r r' h hview => ?_) rfl hs
  · rw [get?_dependencies_adopt, if_neg (by simpa using hp)]
  · rw [get?_dependencies_adopt, get?_dependencies_adopt, hview]

/-- Rows of manifests that have the same ones for each part lead to the same. -/
theorem agrees_of_rearranges (r : Resolution) (h : Rearranges hs hs') :
    Agrees (r.adoptAll hs) (r.adoptAll hs') := by
  have hentrypoint := (entrypoint_adoptAll_filter r hs).trans
    (h.entrypoint ▸ (entrypoint_adoptAll_filter r hs').symm)
  exact {
    language := by rw [language_adoptAll_filter, h.language, ← language_adoptAll_filter]
    entrypoint := (Prod.mk.inj hentrypoint).1
    guessed := (Prod.mk.inj hentrypoint).2
    dependencies := fun e => by
      rw [get?_dependencies_adoptAll_filter, h.ecosystem, ← get?_dependencies_adoptAll_filter] }

theorem adopt_packages (r : Resolution) (e : Ecosystem) (versions : Versions) :
    r.adopt { ecosystem := e, dependencies := versions } = r.withDependencies e versions := by
  cases hl : r.language <;>
    simp [adopt, withLanguage, withEntrypoint, withDependencies, hl]

/-- Manifests that declare packages of different ecosystems and nothing else change places. -/
theorem rearranges_packages {e e' : Ecosystem} (hne : e ≠ e') (versions versions' : Versions) :
    Rearranges
      [{ ecosystem := e, dependencies := versions }, { ecosystem := e', dependencies := versions' }]
      [{ ecosystem := e', dependencies := versions' }, { ecosystem := e, dependencies := versions }]
    where
  ecosystem k := by
    by_cases hk : e = k
    · have hk' : e' ≠ k := fun hk' => hne (hk.trans hk'.symm)
      simp [hk, hk']
    · simp [hk, List.filter_cons]
  language := rfl
  entrypoint := rfl

/-- **The order of manifests matters only where they write the same.** Whatever is known before, two
rows of manifests lead to the same if they have the same manifests of each ecosystem, the same that
name a language and the same that name an entrypoint, each time in the same order. So packages of
different ecosystems may be added in either order. -/
theorem rearrangements_agree (r : Resolution) :
    (∀ hs hs', Rearranges hs hs' → Agrees (r.adoptAll hs) (r.adoptAll hs')) ∧
      ∀ e e', e ≠ e' → ∀ versions versions',
        Agrees ((r.withDependencies e versions).withDependencies e' versions')
          ((r.withDependencies e' versions').withDependencies e versions) := by
  refine ⟨fun hs hs' h => agrees_of_rearranges r h, fun e e' hne versions versions' => ?_⟩
  have hswap := agrees_of_rearranges r (rearranges_packages hne versions versions')
  simpa only [adoptAll_cons, adoptAll_nil, adopt_packages] using hswap

/-- What four manifests say: two of one ecosystem, the second with a newer version and an entrypoint
of its own, between two others. -/
def spread : List Hints := [
  { ecosystem := .python, dependencies := Table.ofList [("a", "1")] },
  { ecosystem := .node, language := some .ts, entrypoint := "index.ts" },
  { ecosystem := .go, dependencies := Table.ofList [("a", "v1")] },
  .ofHabit .python (Table.ofList [("a", "2")])]

/-- The same with the manifests of that ecosystem next to each other, at the end. -/
def gathered : List Hints := [
  { ecosystem := .go, dependencies := Table.ofList [("a", "v1")] },
  { ecosystem := .node, language := some .ts, entrypoint := "index.ts" },
  { ecosystem := .python, dependencies := Table.ofList [("a", "1")] },
  .ofHabit .python (Table.ofList [("a", "2")])]

/-- Two rows that differ lead to the same, though not to equal resolutions; and so do packages of two
ecosystems added in either order. -/
theorem rearrangements_agree_spread :
    spread ≠ gathered ∧ Resolution.adoptAll {} spread ≠ Resolution.adoptAll {} gathered ∧
      Agrees (Resolution.adoptAll {} spread) (Resolution.adoptAll {} gathered) ∧
      Agrees ((Resolution.withDependencies {} .go ∅).withDependencies .php ∅)
        ((Resolution.withDependencies {} .php ∅).withDependencies .go ∅) := by
  have hrow : Rearranges spread gathered := {
    ecosystem := fun e => by cases e <;> decide +kernel
    language := by decide +kernel
    entrypoint := by decide +kernel }
  obtain ⟨hrows, hmerges⟩ := rearrangements_agree {}
  exact ⟨by decide +kernel, by decide +kernel, hrows _ _ hrow, hmerges _ _ (by decide) _ _⟩

end Fingerprint.Resolution
