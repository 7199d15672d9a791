/-
Documents: statements, one to a line. A pair goes into the table of the last
header; a header opens a table, or a new table at the end of an array of
tables. What may still be opened or extended is kept as three sets of keys:
those declared, those closed, and those that dotted keys have made and that
count as declared from the next header on.
-/
import Fingerprint.Text.Lines
import Fingerprint.Toml.Values

namespace Fingerprint.Toml

open Text

/-- A document while it is read. -/
structure Builder where
  root : Members := []
  header : Key := []
  declared : List Key := []
  frozen : List Key := []
  pending : List Key := []

namespace Builder

/-- The proper beginnings of a key, the empty one left out. -/
def beginnings (key : Key) : List Key :=
  (List.range (key.length - 1)).map fun n => key.take (n + 1)

/-- Counts what dotted keys have made as declared. -/
def settle (b : Builder) : Builder := { b with declared := b.pending ++ b.declared, pending := [] }

/-- Adds a pair; `here` is the text after it. -/
def addPair (b : Builder) (key : Key) (v : Value) (here : List Char) : Except Fault Builder :=
  let name := key.getLastD ""
  let above := b.header ++ key.dropLast
  let made := (beginnings key).map (b.header ++ ·)
  match made.find? (b.declared.contains ·) with
  | some key => faultAt (.redefinedNamespace key) here
  | none =>
    if isFrozen b.frozen above then faultAt (.immutableNamespace above) here
    else
      match update? true (fun t => if (Entries.get? name t).isSome then none
          else some (Entries.put name v t)) above b.root with
      | none => faultAt .overwrittenValue here
      | some root =>
        .ok { b with
          root
          pending := made ++ b.pending
          frozen := if v.isNest then (b.header ++ key) :: b.frozen else b.frozen }

/-- Opens a table; `here` is the text after its key. -/
def openTable (b : Builder) (key : Key) (here : List Char) : Except Fault Builder :=
  if b.declared.contains key || isFrozen b.frozen key then faultAt (.declaredTwice key) here
  else
    match update? true some key b.root with
    | none => faultAt .overwrittenValue here
    | some root => .ok { b with root, header := key, declared := key :: b.declared }

/-- Adds an empty table at the end of an array of tables, which may be new. -/
def appendTable (name : String) (t : Members) : Option Members :=
  match Entries.get? name t with
  | none => some (Entries.put name (.array [.table []]) t)
  | some (.array items) => some (Entries.put name (.array (items ++ [.table []])) t)
  | some _ => none

/-- Opens a new table of an array; `here` is the text after its key. What was said of the keys
below it held of the table before. -/
def openArrayTable (b : Builder) (key : Key) (here : List Char) : Except Fault Builder :=
  if isFrozen b.frozen key then faultAt (.immutableNamespace key) here
  else
    match update? true (appendTable (key.getLastD "")) key.dropLast b.root with
    | none => faultAt .overwrittenValue here
    | some root =>
      .ok { b with
        root
        header := key
        declared := key :: b.declared.filter fun k => !key.isPrefixOf k
        frozen := b.frozen.filter fun k => !key.isPrefixOf k }

end Builder

/-- Skips a comment, if one is there, up to the end of the line. -/
def skipComment (s : List Char) : Except Fault (List Char) :=
  match s with
  | '#' :: rest => do
    let after := rest.dropWhile (· != '\n')
    refuseWhere isIllegal (rest.takeWhile (· != '\n')) after.length
    return after
  | _ => .ok s

/-- Reads a header whose bracket begins the text. -/
def readHeader (b : Builder) (s : List Char) : Except Fault (Builder × List Char) := do
  let b := b.settle
  match s with
  | '[' :: '[' :: rest =>
    let (key, s) ← readKey (skipSpace rest)
    let b ← b.openArrayTable key s
    match s with
    | ']' :: ']' :: rest => return (b, rest)
    | other => faultAt .arrayBrackets other
  | s =>
    let (key, s) ← readKey (skipSpace (s.drop 1))
    let b ← b.openTable key s
    match s with
    | ']' :: rest => return (b, rest)
    | other => faultAt .tableBracket other

/-- Reads a header or pair at the start of a text that is not empty, and the blanks after it. -/
def readStatement (b : Builder) (c : Char) (s : List Char) : Except Fault (Builder × List Char) := do
  if isKeyStart c then
    let (key, v, s) ← readPair (readValue (s.length + 1)) s
    let b ← b.addPair key v s
    return (b, skipSpace s)
  else if c = '[' then
    let (b, s) ← readHeader b s
    return (b, skipSpace s)
  else if c = '#' then return (b, s)
  else faultAt .statement s

/-- Reads lines, at most `fuel` of them. -/
def readLines : Nat → Builder → List Char → Except Fault Builder
  | 0, b, _ => .ok b
  | fuel + 1, b, s =>
    match skipSpace s with
    | [] => .ok b
    | '\n' :: rest => readLines fuel b rest
    | c :: rest => do
      let (b, s) ← readStatement b c (c :: rest)
      match ← skipComment s with
      | [] => return b
      | '\n' :: rest => readLines fuel b rest
      | other => faultAt .endOfStatement other

/-- Reads a document. Every `\r\n` counts as a line feed. -/
def read (text : String) : Except ReadError Members :=
  let s := foldCrLf text.toList
  match readLines (s.length + 1) {} s with
  | .ok b => .ok b.root
  | .error f => .error (f.locate s)

end Fingerprint.Toml
