/-
Reading JSON. `read` turns a text into a value or says what is wrong and
where. Beyond the standard it takes `NaN`, `Infinity` and `-Infinity`; an
integer of too many digits is an error of its own kind, without a place.

The readers work on a list of characters and return what is left of it. A
fault carries the number of characters from its place to the end of the text,
which `read` turns into a position.
-/
import Fingerprint.Decimal.FloatText
import Fingerprint.Decimal.Integer
import Fingerprint.Json.Value
import Fingerprint.Text.Position

namespace Fingerprint.Json

open Text Decimal

/-- What a text violates. -/
inductive Cause where
  | value
  | propertyName
  | colon
  | comma
  | extraData
  | unterminatedString
  | controlCharacter
  | escape
  | unicodeEscape
  | byteOrderMark
  deriving DecidableEq, Repr

/-- The wording of a cause. -/
def Cause.message : Cause → String
  | .value => "Expecting value"
  | .propertyName => "Expecting property name enclosed in double quotes"
  | .colon => "Expecting ':' delimiter"
  | .comma => "Expecting ',' delimiter"
  | .extraData => "Extra data"
  | .unterminatedString => "Unterminated string starting at"
  | .controlCharacter => "Invalid control character at"
  | .escape => "Invalid \\escape"
  | .unicodeEscape => "Invalid \\uXXXX escape"
  | .byteOrderMark => "Unexpected UTF-8 BOM (decode using utf-8-sig)"

/-- A fault met while reading: a violation with the number of characters from its place to the
end, or an integer that is too long. -/
inductive Fault where
  | malformed (cause : Cause) (rest : Nat)
  | tooManyDigits (count : Nat)
  deriving DecidableEq, Repr

/-- What a reader gives: a result and the characters after it. -/
abbrev Step (α : Type) := Except Fault (α × List Char)

/-- A violation at the start of `s`. -/
def faultAt {α : Type} (cause : Cause) (s : List Char) : Step α :=
  .error (.malformed cause s.length)

/-- The white space between tokens. -/
def isSpace (c : Char) : Bool := c = ' ' || c = '\t' || c = '\n' || c = '\r'

/-- Skips white space. -/
def skipSpace (s : List Char) : List Char := s.dropWhile isSpace

/-- The character that a one-letter escape stands for. -/
def simpleEscape? (c : Char) : Option Char :=
  match c with
  | '"' => some '"'
  | '\\' => some '\\'
  | '/' => some '/'
  | 'b' => some '\x08'
  | 'f' => some '\x0c'
  | 'n' => some '\n'
  | 'r' => some '\r'
  | 't' => some '\t'
  | _ => none

/-- The value of four hexadecimal digits. -/
def hex4? (a b c d : Char) : Option Nat := do
  return ofDigits 16 [← hexDigit? a, ← hexDigit? b, ← hexDigit? c, ← hexDigit? d]

/-- Reads the rest of a string as code units, up to and over its closing quote; `start` counts the
characters from the opening quote on. A four-digit escape must have a character after it. -/
def stringUnits (start : Nat) : List Char → Step (List Nat)
  | [] => .error (.malformed .unterminatedString start)
  | '"' :: rest => .ok ([], rest)
  | '\\' :: 'u' :: a :: b :: c :: d :: e :: rest =>
    match hex4? a b c d with
    | none => faultAt .unicodeEscape ('u' :: a :: b :: c :: d :: e :: rest)
    | some n => (stringUnits start (e :: rest)).map fun r => (n :: r.1, r.2)
  | '\\' :: 'u' :: rest => faultAt .unicodeEscape ('u' :: rest)
  | '\\' :: c :: rest =>
    match simpleEscape? c with
    | none => faultAt .escape ('\\' :: c :: rest)
    | some x => (stringUnits start rest).map fun r => (x.toNat :: r.1, r.2)
  | ['\\'] => .error (.malformed .unterminatedString start)
  | c :: rest =>
    if c.toNat < 0x20 then faultAt .controlCharacter (c :: rest)
    else (stringUnits start rest).map fun r => (c.toNat :: r.1, r.2)

/-- Whether a code unit is the first half of a pair. -/
def isHighHalf (n : Nat) : Bool := decide (0xD800 ≤ n ∧ n ≤ 0xDBFF)

/-- Whether a code unit is the second half of a pair. -/
def isLowHalf (n : Nat) : Bool := decide (0xDC00 ≤ n ∧ n ≤ 0xDFFF)

/-- The character of a code unit. Half a pair without the other half is none, and no text holds it:
it becomes U+FFFD, so texts that differ only in such halves are read alike. -/
def unitChar (n : Nat) : Char := if isHighHalf n || isLowHalf n then '\uFFFD' else Char.ofNat n

/-- The characters of code units; a pair of halves makes one character. -/
def joinHalves : List Nat → List Char
  | [] => []
  | [n] => [unitChar n]
  | n :: m :: rest =>
    if isHighHalf n && isLowHalf m then
      Char.ofNat (0x10000 + (n - 0xD800) * 0x400 + (m - 0xDC00)) :: joinHalves rest
    else unitChar n :: joinHalves (m :: rest)

/-- Reads a string whose opening quote has been read. -/
def readString (rest : List Char) : Step String :=
  (stringUnits (rest.length + 1) rest).map fun r => (String.ofList (joinHalves r.1), r.2)

/-- A number as written: sign, digits before and after the point, exponent. -/
structure Numeral where
  negative : Bool
  whole : List Nat
  fraction : Option (List Nat)
  exponent : Option Int
  deriving DecidableEq, Repr

/-- The values of the leading ASCII digits, and the rest. -/
def digits : List Char → List Nat × List Char
  | [] => ([], [])
  | c :: rest =>
    match asciiDigit? c with
    | some d => let r := digits rest; (d :: r.1, r.2)
    | none => ([], c :: rest)

/-- Reads the part after the point, if a point and a digit are there. -/
def fractionPart (s : List Char) : Option (List Nat) × List Char :=
  match s with
  | '.' :: rest =>
    let r := digits rest
    if r.1.isEmpty then (none, s) else (some r.1, r.2)
  | _ => (none, s)

/-- Reads an exponent, if its letter, an optional sign and a digit are there. -/
def exponentPart (s : List Char) : Option Int × List Char :=
  match s with
  | c :: rest =>
    if c = 'e' ∨ c = 'E' then
      let (negative, body) := splitSign rest
      let r := digits body
      if r.1.isEmpty then (none, s)
      else (some (if negative then -(ofDigits 10 r.1 : Int) else ofDigits 10 r.1), r.2)
    else (none, s)
  | [] => (none, s)

/-- Reads the digits before the point: a single zero, or digits that begin with none. -/
def wholePart (s : List Char) : Option (List Nat × List Char) :=
  match s with
  | '0' :: rest => some ([0], rest)
  | _ =>
    let r := digits s
    if r.1.isEmpty then none else some r

/-- Reads a number as written. -/
def numeral? (s : List Char) : Option (Numeral × List Char) := do
  let (negative, body) := match s with
    | '-' :: rest => (true, rest)
    | _ => (false, s)
  let (whole, afterWhole) ← wholePart body
  let (fraction, afterFraction) := fractionPart afterWhole
  let (exponent, rest) := exponentPart afterFraction
  return (⟨negative, whole, fraction, exponent⟩, rest)

/-- The value of a number: an integer if it has neither point nor exponent. -/
def Numeral.value (n : Numeral) : Except Fault Value :=
  match n.fraction, n.exponent with
  | none, none =>
    if digitLimit < n.whole.length then .error (.tooManyDigits n.whole.length)
    else
      let m : Int := ofDigits 10 n.whole
      .ok (.int (if n.negative then -m else m))
  | fraction, exponent =>
    let fraction := fraction.getD []
    let x := toFloat (ofDigits 10 (n.whole ++ fraction)) (exponent.getD 0 - fraction.length)
    .ok (.float (if n.negative then -x else x))

/-- The words that stand for values. -/
def literals : List (List Char × Value) :=
  [("null".toList, .null), ("true".toList, .bool true), ("false".toList, .bool false),
    ("NaN".toList, .float (0.0 / 0.0)), ("Infinity".toList, .float (1.0 / 0.0)),
    ("-Infinity".toList, .float (-1.0 / 0.0))]

/-- Reads a word that stands for a value. -/
def literal? (s : List Char) : Option (Value × List Char) :=
  literals.findSome? fun l => if l.1.isPrefixOf s then some (l.2, s.drop l.1.length) else none

/-- Reads the elements of an array up to and over its bracket, each by `element`, at most `fuel`
of them. -/
def elements (element : List Char → Step Value) :
    Nat → List Char → Except Fault (List Value × List Char)
  | 0, s => faultAt .value s
  | fuel + 1, s => do
    let (v, s) ← element s
    match skipSpace s with
    | ']' :: rest => return ([v], rest)
    | ',' :: rest =>
      let (vs, rest) ← elements element fuel (skipSpace rest)
      return (v :: vs, rest)
    | other => faultAt .comma other

/-- Reads the members of an object up to and over its brace, each value by `element`, at most
`fuel` of them. -/
def members (element : List Char → Step Value) :
    Nat → List Char → Except Fault (List (String × Value) × List Char)
  | 0, s => faultAt .value s
  | fuel + 1, s => do
    match s with
    | '"' :: rest =>
      let (name, s) ← readString rest
      match skipSpace s with
      | ':' :: rest =>
        let (v, s) ← element (skipSpace rest)
        match skipSpace s with
        | '\x7d' :: rest => return ([(name, v)], rest)
        | ',' :: rest =>
          let (ms, rest) ← members element fuel (skipSpace rest)
          return ((name, v) :: ms, rest)
        | other => faultAt .comma other
      | other => faultAt .colon other
    | other => faultAt .propertyName other

/-- The object with the given members, a repeated name keeping its first place and last value. -/
def objectOf (ms : List (String × Value)) : Value :=
  .object (ms.foldl (fun es m => Entries.put m.1 m.2 es) [])

/-- Reads a value that begins at once, nested at most `depth` deep. -/
def readValue : Nat → List Char → Step Value
  | 0, s => faultAt .value s
  | depth + 1, s =>
    match s with
    | '"' :: rest => (readString rest).map fun r => (.string r.1, r.2)
    | '[' :: rest =>
      match skipSpace rest with
      | ']' :: rest => .ok (.array [], rest)
      | body => (elements (readValue depth) (body.length + 1) body).map fun r => (.array r.1, r.2)
    | '\x7b' :: rest =>
      match skipSpace rest with
      | '\x7d' :: rest => .ok (.object [], rest)
      | body => (members (readValue depth) (body.length + 1) body).map fun r => (objectOf r.1, r.2)
    | _ =>
      match literal? s with
      | some r => .ok r
      | none =>
        match numeral? s with
        | some (n, rest) => n.value.map fun v => (v, rest)
        | none => faultAt .value s

/-- Reads a whole text as one value. -/
def readText (s : List Char) : Except Fault Value :=
  match s with
  | '\uFEFF' :: _ => .error (.malformed .byteOrderMark s.length)
  | _ => do
    let (v, rest) ← readValue (s.length + 1) (skipSpace s)
    match skipSpace rest with
    | [] => return v
    | other => .error (.malformed .extraData other.length)

/-- Why a text is no JSON document. -/
inductive ReadError where
  | malformed (cause : Cause) (position : Position)
  | tooManyDigits (count : Nat)
  deriving DecidableEq, Repr

/-- The wording of an error. -/
def ReadError.message : ReadError → String
  | .malformed cause p =>
    s!"{cause.message}: line {p.line} column {p.column} (char {p.offset})"
  | .tooManyDigits count => tooManyDigitsMessage count

/-- Places a fault in its text. -/
def Fault.locate (text : List Char) : Fault → ReadError
  | .malformed cause rest => .malformed cause (Position.at text (text.length - rest))
  | .tooManyDigits count => .tooManyDigits count

/-- Reads a document. -/
def read (text : String) : Except ReadError Value :=
  (readText text.toList).mapError (·.locate text.toList)

end Fingerprint.Json
