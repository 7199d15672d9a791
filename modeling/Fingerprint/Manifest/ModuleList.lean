/-
The packages of a module list: lines of the form `require path version`, and
between a line that starts with `require (` and a line `)` lines of the form
`path version`. Further words of a line, blank lines and comment lines do not
matter.
-/
import Fingerprint.Text.Lines
import Fingerprint.Ecosystem

namespace Fingerprint.ModuleList

open Text

/-- How a block begins. -/
def opening : List Char := "require (".toList

/-- How a single requirement begins. -/
def keyword : List Char := "require ".toList

/-- Whether a trimmed line says nothing. -/
def isSkipped (line : List Char) : Bool := line.isEmpty || "//".toList.isPrefixOf line

/-- The first two of a list of words, as path and version. -/
def pair? : List (List Char) → Option (String × String)
  | path :: version :: _ => some (String.ofList path, String.ofList version)
  | _ => none

/-- The requirements of lines, given whether they start within a block. -/
def requirementsFrom : Bool → List (List Char) → List (String × String)
  | _, [] => []
  | inside, raw :: rest =>
    let line := trim raw
    if isSkipped line then requirementsFrom inside rest
    else if opening.isPrefixOf line then requirementsFrom true rest
    else if inside then
      if line = [')'] then requirementsFrom false rest
      else (pair? (words line)).toList ++ requirementsFrom true rest
    else if keyword.isPrefixOf line then
      (pair? ((words line).drop 1)).toList ++ requirementsFrom false rest
    else requirementsFrom false rest

/-- The versions by package path. -/
def dependencies (text : String) : Versions :=
  Table.ofList (requirementsFrom false (lines text.toList))

end Fingerprint.ModuleList
