/-
What a forced language changes. What the manifests say and where they fail
hangs on no forced language, and neither does any part of the conclusion but
the language itself (`conclude_learn_congr`). A name that is not blank forces
the language that it names without the blanks around it, in small letters, or
else the unknown one; the name is brought into that form twice, which comes to
doing it once (`Language.normalName_normalName`).
-/
import Fingerprint.Proofs.Detection.Provenance
import Fingerprint.Proofs.Text.Normal

namespace Fingerprint

open Text

namespace Language

theorem normalName_normalName (name : String) : normalName (normalName name) = normalName name := by
  rw [normalName, normalName, String.toList_ofList, trim_lower_trim, lower_lower]

theorem ofName?_normalName (name : String) :
    ofName? (normalName name) = withName? (normalName name) := by
  rw [ofName?, normalName_normalName]

theorem isEmpty_normalName_iff {name : String} :
    (normalName name).isEmpty = true ↔ trim name.toList = [] := by
  rw [String.isEmpty_iff, normalName, ← lower_eq_nil_iff, ← String.toList_inj,
    String.toList_ofList]
  rfl

end Language

namespace Detection

/-- A name that is not blank forces the language of its normal form, or else the unknown one. -/
theorem forcedLanguage_of_not_blank {forced : String} (h : trim forced.toList ≠ []) :
    forcedLanguage forced =
      some ((Language.withName? (Language.normalName forced)).getD .unknown) := by
  have hname : ¬ (Language.normalName forced).isEmpty = true := fun hempty =>
    h (Language.isEmpty_normalName_iff.1 hempty)
  simp only [forcedLanguage, if_neg hname, Language.ofName?_normalName]

variable {s : Snapshot} {root : Path}

theorem dependencies_learn_congr (language language' : Option Language) (hs : List Hints) :
    (learn s root language' hs).dependencies = (learn s root language hs).dependencies := by
  rw [learn, learn, Resolution.dependencies_takeOffers, Resolution.dependencies_takeOffers]
  have hnone : (Resolution.mk language' "" false ∅).dependencies =
      (Resolution.mk language "" false ∅).dependencies := rfl
  exact Resolution.dependencies_adoptAll_congr hnone hs

/-- **A forced language changes the language of a conclusion and nothing else.** -/
theorem conclude_learn_congr (language language' : Option Language) (hs : List Hints) :
    let d := conclude s.tree root (learn s root language hs)
    let d' := conclude s.tree root (learn s root language' hs)
    d'.entrypoint = d.entrypoint ∧ d'.guessed = d.guessed ∧ d'.dependencies = d.dependencies ∧
      d'.secretsRequired = d.secretsRequired := by
  have hnamed := (named?_learn s root language' hs).trans (named?_learn s root language hs).symm
  have hpackages : (learn s root language' hs).dependencies = (learn s root language hs).dependencies :=
    dependencies_learn_congr language language' hs
  obtain ⟨hentrypoint, hguessed⟩ := entrypoint_conclude_congr s.tree root hnamed
  exact ⟨hentrypoint, hguessed, hpackages, congrArg (needsSecrets s.tree root) hpackages⟩

/-- **Forcing a language changes nothing but the language.** With two forced names, where no name is
as good as an empty one, detection fails in the same way or gives fingerprints that agree in all but
the language. A name that is not blank gives the language that it names without the blanks around
it, in small letters, and the unknown language if there is none of that name. -/
theorem resolve_forced (s : Snapshot) (root : Path) (f g : Option String) :
    ((∃ failure, (resolve s root (f.getD "")).outcome = .error failure ∧
        (resolve s root (g.getD "")).outcome = .error failure) ∨
      ∃ d d', (resolve s root (f.getD "")).outcome = .ok d ∧
        (resolve s root (g.getD "")).outcome = .ok d' ∧ d'.entrypoint = d.entrypoint ∧
        d'.guessed = d.guessed ∧ d'.dependencies = d.dependencies ∧
        d'.secretsRequired = d.secretsRequired) ∧
    ∀ d, (resolve s root (f.getD "")).outcome = .ok d → trim (f.getD "").toList ≠ [] →
      d.language = (Language.withName? (Language.normalName (f.getD ""))).getD .unknown := by
  rw [outcome_resolve, outcome_resolve]
  cases gather s root with
  | error failure => exact ⟨.inl ⟨failure, rfl, rfl⟩, nofun⟩
  | ok hs =>
    refine ⟨.inr ⟨_, _, rfl, rfl, conclude_learn_congr _ _ hs⟩, fun d hd hname => ?_⟩
    cases hd
    rw [language_conclude, language_learn, forcedLanguage_of_not_blank hname,
      Option.orElse_eq_orElse, Option.orElse_some, Option.getD_some]

end Detection

end Fingerprint
