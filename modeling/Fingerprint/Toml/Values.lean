/-
Values of a document, arrays and inline tables among them. What is written in
an array or inline table is closed: no later key of the same inline table may
reach into it.
-/
import Fingerprint.Toml.Dates
import Fingerprint.Toml.Keys
import Fingerprint.Toml.Numbers

namespace Fingerprint.Toml

/-- Skips blanks, line breaks and comments; `inComment` says whether the text starts in a comment. -/
def skipTrivia : Bool → List Char → Except Fault (List Char)
  | _, [] => .ok []
  | true, c :: rest =>
    if c = '\n' then skipTrivia false rest
    else if isIllegal c then faultAt (.invalidCharacter c) (c :: rest)
    else skipTrivia true rest
  | false, c :: rest =>
    if isSpaceOrBreak c then skipTrivia false rest
    else if c = '#' then skipTrivia true rest
    else .ok (c :: rest)

/-- Changes the table that a key leads to, making the tables that are missing on the way; none if
something else stands in the way or `f` refuses. With `intoArrays` a key that names an array leads
to its last table. -/
def update? (intoArrays : Bool) (f : Members → Option Members) : Key → Members → Option Members
  | [], ms => f ms
  | name :: key, ms =>
    match Entries.get? name ms with
    | none => (update? intoArrays f key []).map fun t => Entries.put name (.table t) ms
    | some (.table t) => (update? intoArrays f key t).map fun t => Entries.put name (.table t) ms
    | some (.array items) =>
      match intoArrays, items.getLast? with
      | true, some (.table t) =>
        (update? intoArrays f key t).map fun t =>
          Entries.put name (.array (items.dropLast ++ [.table t])) ms
      | _, _ => none
    | some _ => none

/-- Whether a key leads into one of the closed keys. -/
def isFrozen (frozen : List Key) (key : Key) : Bool := frozen.any (·.isPrefixOf key)

/-- Reads a key, an equals sign and a value by `value`. -/
def readPair (value : List Char → Except Fault (Value × List Char)) (s : List Char) :
    Except Fault (Key × Value × List Char) := do
  let (key, s) ← readKey s
  match s with
  | '=' :: rest =>
    let (v, s) ← value (skipSpace rest)
    return (key, v, s)
  | other => faultAt .equalsSign other

/-- Reads the items of an array up to and over its bracket, each by `value`, at most `fuel` of
them. -/
def arrayItems (value : List Char → Except Fault (Value × List Char)) :
    Nat → List Char → Except Fault (List Value × List Char)
  | 0, s => faultAt .openArray s
  | fuel + 1, s => do
    let (v, s) ← value s
    match ← skipTrivia false s with
    | ']' :: rest => return ([v], rest)
    | ',' :: rest =>
      match ← skipTrivia false rest with
      | ']' :: rest => return ([v], rest)
      | more =>
        let (vs, rest) ← arrayItems value fuel more
        return (v :: vs, rest)
    | other => faultAt .openArray other

/-- Puts a pair into an inline table; `here` is the text after the pair. -/
def addInline (frozen : List Key) (ms : Members) (key : Key) (v : Value) (here : List Char) :
    Except Fault Members :=
  let name := key.getLastD ""
  if isFrozen frozen key then faultAt (.immutableNamespace key) here
  else
    match update? false some key.dropLast ms with
    | none => faultAt .overwrittenValue here
    | some _ =>
      match update? false (fun t => if (Entries.get? name t).isSome then none
          else some (Entries.put name v t)) key.dropLast ms with
      | none => faultAt (.duplicateInlineKey name) here
      | some ms => .ok ms

/-- Reads the pairs of an inline table up to and over its brace, each value by `value`, at most
`fuel` of them, into the members so far. -/
def inlinePairs (value : List Char → Except Fault (Value × List Char)) :
    Nat → List Key → Members → List Char → Except Fault (Members × List Char)
  | 0, _, _, s => faultAt .openInlineTable s
  | fuel + 1, frozen, ms, s => do
    let (key, v, s) ← readPair value s
    let ms ← addInline frozen ms key v s
    match skipSpace s with
    | '\x7d' :: rest => return (ms, rest)
    | ',' :: rest =>
      inlinePairs value fuel (if v.isNest then key :: frozen else frozen) ms (skipSpace rest)
    | other => faultAt .openInlineTable other

/-- The words for truth values. -/
def booleanHere? (s : List Char) : Option (Value × List Char) :=
  match s with
  | 't' :: 'r' :: 'u' :: 'e' :: rest => some (.bool true, rest)
  | 'f' :: 'a' :: 'l' :: 's' :: 'e' :: rest => some (.bool false, rest)
  | _ => none

/-- Reads a value that holds no other. -/
def readScalar (s : List Char) : Except Fault (Value × List Char) :=
  match stringHere? s with
  | some r => r.map fun r => (.string (String.ofList r.1), r.2)
  | none =>
    match booleanHere? s with
    | some r => .ok r
    | none =>
      match momentHere? s with
      | some r => r
      | none =>
        match numberHere? s with
        | some r => r
        | none =>
          match specialHere? s with
          | some r => .ok r
          | none => faultAt .value s

/-- Reads a value, nested at most `depth` deep. -/
def readValue : Nat → List Char → Except Fault (Value × List Char)
  | 0, s => faultAt .value s
  | depth + 1, s =>
    match s with
    | '[' :: rest => do
      match ← skipTrivia false rest with
      | ']' :: rest => return (.array [], rest)
      | body => (arrayItems (readValue depth) (body.length + 1) body).map fun r => (.array r.1, r.2)
    | '\x7b' :: rest =>
      match skipSpace rest with
      | '\x7d' :: rest => .ok (.table [], rest)
      | body =>
        (inlinePairs (readValue depth) (body.length + 1) [] [] body).map fun r => (.table r.1, r.2)
    | _ => readScalar s

end Fingerprint.Toml
