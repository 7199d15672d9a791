/-
The fingerprint of a project: its language, its entrypoint and whether that
was guessed, the packages of each ecosystem, and whether it needs secrets when
it runs.
-/
import Fingerprint.Ecosystem
import Fingerprint.Json.Value
import Fingerprint.Language

namespace Fingerprint

/-- Versions by package name, by ecosystem. -/
abbrev Dependencies := Table Ecosystem Versions

/-- The fingerprint of a project. -/
structure Detection where
  language : Language
  entrypoint : String
  guessed : Bool
  dependencies : Dependencies := ∅
  secretsRequired : Bool := false
  deriving DecidableEq

namespace Detection

/-- The versions of one ecosystem; none if it is absent. -/
def versionsFor (d : Detection) (e : Ecosystem) : Versions := (d.dependencies.get? e).getD ∅

/-- The ecosystems that are present, in order of precedence, each with its packages in ascending
order of their names. -/
def listing (d : Detection) : List (Ecosystem × List (String × String)) :=
  Ecosystem.all.filterMap fun e => (d.dependencies.get? e).map fun vs => (e, vs.sorted)

/-- The fingerprint as a document. -/
def toJson (d : Detection) : Json.Value :=
  .object [
    ("language", .string d.language.name),
    ("entrypoint", .string d.entrypoint),
    ("entrypoint_is_guessed", .bool d.guessed),
    ("dependencies", .object (d.listing.map fun l => (l.1.name, .ofStrings l.2))),
    ("secrets_required", .bool d.secretsRequired)]

end Detection

end Fingerprint
