/-
Entrypoints named in files that are no manifests: the last word of the first
line of a process file, and the value of an `entry` key in a configuration
file. Such a key may be in any case, and a colon or an equals sign and a value
in double quotes follow it, with any blanks between.
-/
import Fingerprint.Text.Blank

namespace Fingerprint.Detection

open Text

/-- The last word of the first line, if the line has two words or more; else nothing. -/
def processEntry (text : String) : String :=
  match words (text.toList.takeWhile (· != '\n')) with
  | _ :: w :: ws => String.ofList ((w :: ws).getLastD [])
  | _ => ""

/-- What follows a word at the start of a text; the text may be in either case. -/
def afterWord? : List Char → List Char → Option (List Char)
  | [], s => some s
  | _ :: _, [] => none
  | w :: ws, c :: s => if c.toLower = w then afterWord? ws s else none

/-- A value in double quotes that is not empty. -/
def quotedValue? : List Char → Option (List Char)
  | '"' :: rest =>
    match rest.takeWhile (· != '"'), rest.dropWhile (· != '"') with
    | [], _ => none
    | _, [] => none
    | v, _ :: _ => some v
  | _ => none

/-- The value of an `entry` key that begins at once. -/
def entryHere? (s : List Char) : Option (List Char) :=
  match afterWord? "entry".toList s with
  | none => none
  | some rest =>
    match trimStart rest with
    | c :: value => if c = ':' ∨ c = '=' then quotedValue? (trimStart value) else none
    | [] => none

/-- The value of the first `entry` key that has one. -/
def findEntryValue? : List Char → Option (List Char)
  | [] => none
  | c :: rest =>
    match entryHere? (c :: rest) with
    | some v => some v
    | none => findEntryValue? rest

/-- The value of the first `entry` key that has one, or nothing. -/
def configEntry (text : String) : String :=
  ((findEntryValue? text.toList).map String.ofList).getD ""

end Fingerprint.Detection
