/-
What one manifest says about a project: the packages that it declares, and
perhaps the language and the entrypoint. An entrypoint that only follows the
ecosystem's habit is marked as guessed.
-/
import Fingerprint.Ecosystem
import Fingerprint.Language

namespace Fingerprint

/-- What one manifest says. -/
structure Hints where
  ecosystem : Ecosystem
  dependencies : Versions := ∅
  language : Option Language := none
  entrypoint : String := ""
  guessed : Bool := false
  deriving DecidableEq

namespace Hints

/-- What an unreadable or malformed manifest says. -/
def silent (e : Ecosystem) : Hints := { ecosystem := e }

/-- The language and entrypoint that a manifest of the ecosystem stands for by itself. -/
def habit : Ecosystem → Language × String
  | .node => (.js, "")
  | .rust => (.rust, "src/main.rs")
  | .python => (.python, "main.py")
  | .ruby => (.ruby, "main.rb")
  | .go => (.go, "main.go")
  | .php => (.php, "index.php")
  | .swift => (.swift, "main.swift")

/-- The hints of a manifest that declares packages and nothing else. -/
def ofHabit (e : Ecosystem) (dependencies : Versions) : Hints :=
  { ecosystem := e, dependencies, language := some (habit e).1, entrypoint := (habit e).2,
    guessed := true }

end Hints

end Fingerprint
