/-
What is known of a project only grows, whatever steps are taken and in
whichever order. A step writes language and entrypoint once and takes no
package away (`Resolution.Extends`); so do several in a row (`Extends.trans`),
and with them any run (`takeSteps_extends`). A run stops only where a step asks
for a path that is too long to be asked for.
-/
import Fingerprint.Proofs.Detection.Provenance

namespace Fingerprint

open Detection

namespace Resolution

/-- Whether one resolution may come after another, where packages of certain ecosystems came in
between. -/
structure Extends (r : Resolution) (es : List Ecosystem) (r' : Resolution) : Prop where
  /-- A language that is known stays. -/
  language : ∀ l, r.language = some l → r'.language = some l
  /-- An entrypoint that is known stays, and so does its mark. -/
  entrypoint : r.entrypoint ≠ "" → r'.entrypoint = r.entrypoint ∧ r'.guessed = r.guessed
  /-- Without an entrypoint the mark stays. -/
  guessed : r'.entrypoint = "" → r'.guessed = r.guessed
  /-- Ecosystems stay. -/
  ecosystems : ∀ e ∈ r.dependencies.keys, e ∈ r'.dependencies.keys
  /-- Packages stay. -/
  packages : ∀ e, ∀ name ∈ ((r.dependencies.get? e).getD ∅).keys,
    name ∈ ((r'.dependencies.get? e).getD ∅).keys
  /-- All other ecosystems are as they were. -/
  others : ∀ e, e ∉ es → r'.dependencies.get? e = r.dependencies.get? e

namespace Extends

variable {r r' r'' : Resolution} {es es' : List Ecosystem}

theorem refl (r : Resolution) : r.Extends [] r where
  language _ h := h
  entrypoint _ := ⟨rfl, rfl⟩
  guessed _ := rfl
  ecosystems _ h := h
  packages _ _ h := h
  others _ _ := rfl

theorem trans (h : r.Extends es r') (h' : r'.Extends es' r'') : r.Extends (es ++ es') r'' where
  language l hl := h'.language l (h.language l hl)
  entrypoint hne := by
    obtain ⟨hentrypoint, hguessed⟩ := h.entrypoint hne
    obtain ⟨hentrypoint', hguessed'⟩ := h'.entrypoint (hentrypoint ▸ hne)
    exact ⟨hentrypoint'.trans hentrypoint, hguessed'.trans hguessed⟩
  guessed hnone := by
    -- If there was an entrypoint in between, it would still be there.
    have hbetween : r'.entrypoint = "" := by
      by_contra hne
      exact hne ((h'.entrypoint hne).1 ▸ hnone)
    exact (h'.guessed hnone).trans (h.guessed hbetween)
  ecosystems e he := h'.ecosystems e (h.ecosystems e he)
  packages e name hm := h'.packages e name (h.packages e name hm)
  others e he := by
    rw [List.mem_append, not_or] at he
    exact (h'.others e he.2).trans (h.others e he.1)

end Extends

theorem extends_withLanguage (r : Resolution) (l : Option Language) :
    r.Extends [] (r.withLanguage l) where
  language k hk := by rw [withLanguage, hk]; rfl
  entrypoint _ := ⟨rfl, rfl⟩
  guessed _ := rfl
  ecosystems _ h := h
  packages _ _ h := h
  others _ _ := rfl

theorem extends_withEntrypoint (r : Resolution) (entrypoint : String) (guessed : Bool) :
    r.Extends [] (r.withEntrypoint entrypoint guessed) where
  language l hl := by rw [language_withEntrypoint, hl]
  entrypoint hne := by
    rw [withEntrypoint_of_known (by simpa using hne)]
    exact ⟨rfl, rfl⟩
  guessed hnone := by
    unfold withEntrypoint at hnone ⊢
    split
    next htaken =>
      rw [if_pos htaken] at hnone
      simp [show entrypoint = "" from hnone] at htaken
    next => rfl
  ecosystems e he := by rwa [dependencies_withEntrypoint]
  packages e name hm := by rwa [dependencies_withEntrypoint]
  others e _ := by rw [dependencies_withEntrypoint]

theorem extends_withDependencies (r : Resolution) (e : Ecosystem) (versions : Versions) :
    r.Extends [e] (r.withDependencies e versions) where
  language _ h := h
  entrypoint _ := ⟨rfl, rfl⟩
  guessed _ := rfl
  ecosystems k hk := (Table.mem_keys_put _).2 (.inr hk)
  packages k name hm := by
    rw [withDependencies]
    by_cases hk : k = e
    · subst hk
      rw [Table.get?_put_self, Option.getD_some, Table.update, Table.mem_keys_putAll]
      exact .inl hm
    · rwa [Table.get?_put_other _ (Ne.symm hk)]
  others k hk := by
    rw [List.mem_singleton] at hk
    exact Table.get?_put_other _ (Ne.symm hk) _

theorem extends_adopt (r : Resolution) (h : Hints) : r.Extends [h.ecosystem] (r.adopt h) :=
  ((extends_withDependencies r h.ecosystem h.dependencies).trans (extends_withLanguage _ _)).trans
    (extends_withEntrypoint _ _ _)

theorem extends_adoptAll (r : Resolution) (hs : List Hints) :
    r.Extends (hs.map Hints.ecosystem) (r.adoptAll hs) := by
  induction hs generalizing r with
  | nil => exact .refl r
  | cons h hs ih => exact (extends_adopt r h).trans (ih (r.adopt h))

theorem extends_takeOffers (r : Resolution) (offers : List Offer) :
    r.Extends [] (takeOffers offers r) := by
  induction offers generalizing r with
  | nil => exact .refl r
  | cons o offers ih => exact (extends_withEntrypoint r o.1 o.2).trans (ih _)

end Resolution

namespace Detection

/-- A step by which a source is taken in; those that read files bring their own. -/
inductive Step where
  | language (l : Option Language)
  | entrypoint (place : String) (guessed : Bool)
  | dependencies (e : Ecosystem) (versions : Versions)
  | adopt (h : Hints)
  | adoptAll (hs : List Hints)
  | processFile (s : Snapshot) (root : Path)
  | configFiles (s : Snapshot) (root : Path)
  | conventions (tree : FileTree) (root : Path)

/-- Takes a step. -/
def Step.take : Step → Resolution → Traced FileError Resolution
  | .language l, r => return r.withLanguage l
  | .entrypoint place guessed, r => return r.withEntrypoint place guessed
  | .dependencies e versions, r => return r.withDependencies e versions
  | .adopt h, r => return r.adopt h
  | .adoptAll hs, r => return r.adoptAll hs
  | .processFile s root, r => tryProcessFile s root r
  | .configFiles s root, r => tryConfigFiles s root Detection.configFiles r
  | .conventions tree root, r => Traced.ofExcept (tryConventions tree root r)

/-- The questions that a step may ask about files. -/
def Step.questions : Step → List (Except FileError Unit)
  | .language _ | .entrypoint _ _ | .dependencies _ _ | .adopt _ | .adoptAll _ => []
  | .processFile s root => Detection.questions s.tree root [Detection.processFile]
  | .configFiles s root => Detection.questions s.tree root Detection.configFiles
  | .conventions tree root => Detection.questions tree root conventionalEntries

/-- The ecosystems whose packages a step brings. -/
def Step.ecosystems : Step → List Ecosystem
  | .dependencies e _ => [e]
  | .adopt h => [h.ecosystem]
  | .adoptAll hs => hs.map Hints.ecosystem
  | .language _ | .entrypoint _ _ | .processFile _ _ | .configFiles _ _ | .conventions _ _ => []

/-- Takes steps one after another. -/
def takeSteps : List Step → Resolution → Traced FileError Resolution
  | [], r => return r
  | step :: steps, r => do
    let r ← step.take r
    takeSteps steps r

/-- **A step adds to what is known**, and brings packages of its own ecosystems only. -/
theorem Step.take_extends (step : Step) (r : Resolution) :
    ∃ r', ComesTo step.questions (step.take r).outcome r' ∧ r.Extends step.ecosystems r' := by
  cases step with
  | language l => exact ⟨_, .inl rfl, r.extends_withLanguage l⟩
  | entrypoint place guessed => exact ⟨_, .inl rfl, r.extends_withEntrypoint place guessed⟩
  | dependencies e versions => exact ⟨_, .inl rfl, r.extends_withDependencies e versions⟩
  | adopt h => exact ⟨_, .inl rfl, r.extends_adopt h⟩
  | adoptAll hs => exact ⟨_, .inl rfl, r.extends_adoptAll hs⟩
  | processFile s root => exact ⟨_, tryProcessFile_comesTo s root r, r.extends_takeOffers _⟩
  | configFiles s root => exact ⟨_, tryConfigFiles_comesTo s root _ r, r.extends_takeOffers _⟩
  | conventions tree root => exact ⟨_, tryConventions_comesTo tree root r, r.extends_takeOffers _⟩

/-- **So does a run of steps.** -/
theorem takeSteps_extends (steps : List Step) (r : Resolution) :
    ∃ r', ComesTo (steps.flatMap Step.questions) (takeSteps steps r).outcome r' ∧
      r.Extends (steps.flatMap Step.ecosystems) r' := by
  induction steps generalizing r with
  | nil => exact ⟨r, .inl rfl, .refl r⟩
  | cons step steps ih =>
    obtain ⟨r₁, hstep, hextends⟩ := step.take_extends r
    obtain ⟨r₂, hsteps, hextends'⟩ := ih r₁
    refine ⟨r₂, ?_, hextends.trans hextends'⟩
    rw [takeSteps, Traced.outcome_bind]
    exact hstep.bind hsteps

/-- **What is known is written once, whatever steps are taken.** A run of steps comes to an end,
unless it stops at a file that one of them asks for and that cannot be asked for. A language and an
entrypoint with its mark are as they were once they are known, no ecosystem and no package is gone,
and only ecosystems whose packages a step brings have others than before. The mark of a guess, if it
was not set at the beginning as in the empty resolution, is set only where there is an
entrypoint. -/
theorem takeSteps_write_once (steps : List Step) (r : Resolution) :
    (∃ r', (takeSteps steps r).outcome = .ok r' ∧
      r.Extends (steps.flatMap Step.ecosystems) r' ∧
      (r.guessed = false → r'.guessed = true → r'.entrypoint ≠ "")) ∨
    ∃ e, (takeSteps steps r).outcome = .error e ∧
      ∃ step ∈ steps, .error e ∈ step.questions := by
  obtain ⟨r', hrun | ⟨e, hrun, hmem⟩, hextends⟩ := takeSteps_extends steps r
  · refine .inl ⟨r', hrun, hextends, fun hbefore hafter hnone => ?_⟩
    rw [hextends.guessed hnone, hbefore] at hafter
    cases hafter
  · exact .inr ⟨e, hrun, List.mem_flatMap.1 hmem⟩

end Detection

end Fingerprint
