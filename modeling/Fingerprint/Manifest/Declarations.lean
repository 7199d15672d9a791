/-
Manifests of declarations, one to a line: a keyword, blanks, a quoted name,
and perhaps a comma and a quoted version. A declaration without a version
stands for the latest one; the rest of a line does not matter.
-/
import Fingerprint.Manifest.RequirementList

namespace Fingerprint.Declarations

open Text

/-- The two quotes; either may close what either has opened. -/
def isQuote (c : Char) : Bool := c = '\'' || c = '"'

/-- A quoted text that is not empty, and what follows it. -/
def literal? (s : List Char) : Option (List Char × List Char) :=
  match s with
  | [] => none
  | c :: rest =>
    if isQuote c then
      match rest.takeWhile (!isQuote ·), rest.dropWhile (!isQuote ·) with
      | [], _ => none
      | _, [] => none
      | text, _ :: after => some (text, after)
    else none

/-- The version after a name, if a comma and a quoted text follow. -/
def version? (s : List Char) : Option (List Char) :=
  match s with
  | ',' :: rest => (literal? (trimStart rest)).map (·.1)
  | _ => none

/-- The name and version on a trimmed line, if it declares one. -/
def declaration? (keyword : String) (line : List Char) : Option (String × String) :=
  if (keyword.toList ++ [' ']).isPrefixOf line then
    (literal? (trimStart (line.drop keyword.length))).map fun r =>
      (String.ofList r.1, ((version? r.2).map String.ofList).getD latestVersion)
  else none

/-- The declarations of a text, in order. -/
def declarations (keyword : String) (text : List Char) : List (String × String) :=
  (lines text).filterMap fun line => declaration? keyword (trim line)

/-- The versions by package name. -/
def dependencies (keyword text : String) : Versions :=
  Table.ofList (declarations keyword text.toList)

end Fingerprint.Declarations
