/-
The packages of a crate manifest, line by line. Only lines below a line that
is exactly `[dependencies]` count, up to the next line that starts with a
bracket. An entry is a name, an equals sign and a version, of which everything
from the first space on is dropped.
-/
import Fingerprint.Text.Lines
import Fingerprint.Text.Split
import Fingerprint.Ecosystem

namespace Fingerprint.CrateManifest

open Text

/-- The line above the entries. -/
def header : List Char := "[dependencies]".toList

/-- A text without the double quotes at its ends. -/
def unquote (s : List Char) : List Char := strip (· == '"') s

/-- The name and version on a trimmed line, if it is an entry. -/
def entryOf? (line : List Char) : Option (String × String) :=
  if line.isEmpty || line.head? == some '#' then none
  else
    match line.dropWhile (· != '=') with
    | [] => none
    | _ :: value =>
      let name := unquote (trim (line.takeWhile (· != '=')))
      let version := (unquote (trim value)).takeWhile (· != ' ')
      if name.isEmpty then none else some (String.ofList name, String.ofList version)

/-- The entries of lines, given whether they start below the header. -/
def entriesFrom : Bool → List (List Char) → List (String × String)
  | _, [] => []
  | inside, raw :: rest =>
    let line := trim raw
    if line.head? = some '[' then entriesFrom (line == header) rest
    else if inside then (entryOf? line).toList ++ entriesFrom inside rest
    else entriesFrom inside rest

/-- The versions by package name. -/
def dependencies (text : String) : Versions := Table.ofList (entriesFrom false (lines text.toList))

end Fingerprint.CrateManifest
