/-
The packages of a requirement list, one to a line. A run of comparison
characters ends the name, the next run ends the version; a name alone stands
for the latest version. Comments and lines that start with a dash are skipped.
-/
import Fingerprint.Text.Lines
import Fingerprint.Text.Split
import Fingerprint.Ecosystem

namespace Fingerprint

open Text

/-- The version of a package that is declared without one. -/
def latestVersion : String := "latest"

namespace RequirementList

/-- The characters of comparison operators. -/
def isOperator (c : Char) : Bool := c = '=' || c = '<' || c = '>' || c = '~' || c = '!'

/-- The parts of a line between operators, trimmed, the empty ones left out. -/
def partsOf (line : List Char) : List (List Char) :=
  ((splitWhere isOperator line).map trim).filter fun p => !p.isEmpty

/-- The name and version on a trimmed line, if it is a requirement. -/
def requirement? (line : List Char) : Option (String × String) :=
  match line with
  | [] => none
  | c :: _ =>
    if c = '#' ∨ c = '-' then none
    else
      match partsOf line with
      | [] => none
      | [name] => some (String.ofList name, latestVersion)
      | name :: version :: _ => some (String.ofList name, String.ofList version)

/-- The requirements of a text, in order. -/
def requirements (text : List Char) : List (String × String) :=
  (lines text).filterMap fun line => requirement? (trim line)

/-- The versions by package name. -/
def dependencies (text : String) : Versions := Table.ofList (requirements text.toList)

end RequirementList

end Fingerprint
