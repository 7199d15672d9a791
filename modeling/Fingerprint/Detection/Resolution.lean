/-
What is known of a project while its sources are looked at one by one. The
language and the entrypoint are written once: the first source that names one
wins. Packages only accumulate.
-/
import Fingerprint.Detection.Result
import Fingerprint.Manifest.Hints

namespace Fingerprint

/-- What is known so far. -/
structure Resolution where
  language : Option Language := none
  entrypoint : String := ""
  guessed : Bool := false
  dependencies : Dependencies := ∅
  deriving DecidableEq

namespace Resolution

instance : Inhabited Resolution := ⟨{}⟩

/-- Takes a language if none is known. -/
def withLanguage (r : Resolution) (l : Option Language) : Resolution :=
  { r with language := r.language <|> l }

/-- Takes an entrypoint if none is known. -/
def withEntrypoint (r : Resolution) (entrypoint : String) (guessed : Bool) : Resolution :=
  if r.entrypoint.isEmpty && !entrypoint.isEmpty then { r with entrypoint, guessed } else r

/-- Adds packages to those of an ecosystem, a new version winning. -/
def withDependencies (r : Resolution) (e : Ecosystem) (versions : Versions) : Resolution :=
  { r with dependencies :=
      r.dependencies.put e (((r.dependencies.get? e).getD ∅).update versions) }

/-- Takes in what one manifest says. -/
def adopt (r : Resolution) (h : Hints) : Resolution :=
  ((r.withDependencies h.ecosystem h.dependencies).withLanguage h.language).withEntrypoint
    h.entrypoint h.guessed

/-- Takes in what several manifests say, from left to right. -/
def adoptAll (r : Resolution) (hs : List Hints) : Resolution := hs.foldl adopt r

theorem adoptAll_cons (r : Resolution) (h : Hints) (hs : List Hints) :
    r.adoptAll (h :: hs) = (r.adopt h).adoptAll hs := rfl

end Resolution

end Fingerprint
