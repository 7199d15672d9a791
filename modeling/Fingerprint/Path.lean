/-
Paths in normal form. Empty components and single dots are dropped, double
dots are kept. A path that starts with a slash is absolute; exactly two
slashes at the start are an anchor of their own.
-/
import Fingerprint.Text.Split

namespace Fingerprint

open Text

/-- An anchor (empty for a relative path) and the components after it. -/
structure Path where
  anchor : String
  parts : List String
  deriving DecidableEq, Repr

namespace Path

/-- The current directory. -/
def here : Path := ⟨"", []⟩

instance : Inhabited Path := ⟨here⟩

/-- The anchor of a path as written. -/
def anchorOf : List Char → String
  | ['/', '/'] => "//"
  | '/' :: '/' :: '/' :: _ => "/"
  | '/' :: '/' :: _ => "//"
  | '/' :: _ => "/"
  | _ => ""

/-- Whether a component is kept. -/
def isKept (part : List Char) : Bool := !part.isEmpty && part != ['.']

/-- The components of a path as written. -/
def partsOf (s : List Char) : List String := ((splitOn '/' s).filter isKept).map String.ofList

/-- Reads a path. -/
def ofString (s : String) : Path := ⟨anchorOf s.toList, partsOf s.toList⟩

/-- The text of a path; that of the current directory is a single dot. -/
def toString (p : Path) : String :=
  if p.anchor.isEmpty && p.parts.isEmpty then "." else p.anchor ++ joinStrings "/" p.parts

instance : ToString Path := ⟨toString⟩

/-- One path below another, unless it is absolute. -/
def join (p q : Path) : Path := if q.anchor.isEmpty then ⟨p.anchor, p.parts ++ q.parts⟩ else q

instance : HDiv Path String Path := ⟨fun p s => p.join (ofString s)⟩

/-- The path without its last component. -/
def parent (p : Path) : Path := ⟨p.anchor, p.parts.dropLast⟩

/-- The last component, empty if there is none. -/
def name (p : Path) : String := p.parts.getLastD ""

/-- Whether a component of the path holds the character NUL, which no file name does. -/
def hasNul (p : Path) : Bool := p.parts.any fun s => s.toList.contains '\x00'

/-- What follows the last dot of a text, if there is one. -/
def afterLastDot? (s : List Char) : Option (List Char) :=
  if s.contains '.' then some (s.reverse.takeWhile (· != '.')).reverse else none

/-- The extension of a file name: its last dot and what follows, unless the dot comes first or last. -/
def suffixOf (name : List Char) : List Char :=
  match afterLastDot? name with
  | none => []
  | some tail =>
    if tail.isEmpty || tail.length + 1 == name.length then [] else '.' :: tail

/-- The extension of the last component. -/
def suffix (p : Path) : String := String.ofList (suffixOf p.name.toList)

end Path

end Fingerprint
