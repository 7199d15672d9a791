/-
Keys of a document: names joined by dots, each bare or in quotes, with blanks
allowed around the dots.
-/
import Fingerprint.Toml.Quoted
import Fingerprint.Toml.Strings

namespace Fingerprint.Toml

/-- Whether a character begins a name. -/
def isKeyStart (c : Char) : Bool := isBareChar c || c = '"' || c = '\''

/-- Reads one name. -/
def readName (s : List Char) : Except Fault (String × List Char) :=
  match s with
  | '"' :: rest => (basicTail rest).map fun r => (String.ofList r.1, r.2)
  | '\'' :: rest => (literalTail rest).map fun r => (String.ofList r.1, r.2)
  | _ =>
    match s.takeWhile isBareChar with
    | [] => faultAt .keyStart s
    | name => .ok (String.ofList name, s.dropWhile isBareChar)

/-- Skips blanks within a line. -/
def skipSpace (s : List Char) : List Char := s.dropWhile isSpace

/-- Reads a key of at most `fuel` names, and the blanks after it. -/
def readNames : Nat → List Char → Except Fault (Key × List Char)
  | 0, s => faultAt .keyStart s
  | fuel + 1, s => do
    let (name, s) ← readName s
    match skipSpace s with
    | '.' :: rest =>
      let (names, s) ← readNames fuel (skipSpace rest)
      return (name :: names, s)
    | other => return ([name], other)

/-- Reads a key and the blanks after it. -/
def readKey (s : List Char) : Except Fault (Key × List Char) := readNames (s.length + 1) s

end Fingerprint.Toml
