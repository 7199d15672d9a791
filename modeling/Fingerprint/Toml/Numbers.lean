/-
Numbers of a document: integers in base ten, sixteen, eight or two, and
floating-point numbers with a fraction or an exponent. A single underscore may
stand between two digits.
-/
import Fingerprint.Decimal.FloatText
import Fingerprint.Toml.Fault

namespace Fingerprint.Toml

open Text Decimal

/-- Reads the digits after a first digit, single underscores between them. -/
def moreDigits (digit? : Char → Option Nat) : List Char → List Nat × List Char
  | [] => ([], [])
  | '_' :: d :: rest =>
    match digit? d with
    | some v => let r := moreDigits digit? rest; (v :: r.1, r.2)
    | none => ([], '_' :: d :: rest)
  | c :: rest =>
    match digit? c with
    | some v => let r := moreDigits digit? rest; (v :: r.1, r.2)
    | none => ([], c :: rest)

/-- Reads digits, if one is there. -/
def digitsHere? (digit? : Char → Option Nat) (s : List Char) : Option (List Nat × List Char) :=
  match s with
  | c :: rest => (digit? c).map fun v => let r := moreDigits digit? rest; (v :: r.1, r.2)
  | [] => none

/-- The value of a digit of a base up to sixteen. -/
def digitOf? (base : Nat) (c : Char) : Option Nat :=
  (hexDigit? c).filter fun v => decide (v < base)

/-- Reads an integer in base sixteen, eight or two. -/
def basedHere? (s : List Char) : Option (Value × List Char) :=
  let based (base : Nat) (rest : List Char) : Option (Value × List Char) :=
    (digitsHere? (digitOf? base) rest).map fun r => (.int (ofDigits base r.1), r.2)
  match s with
  | '0' :: 'x' :: rest => based 16 rest
  | '0' :: 'o' :: rest => based 8 rest
  | '0' :: 'b' :: rest => based 2 rest
  | _ => none

/-- Reads the digits before a point: a single zero, or digits that begin with none. -/
def wholeHere? (s : List Char) : Option (List Nat × List Char) :=
  match s with
  | '0' :: rest => some ([0], rest)
  | _ => digitsHere? asciiDigit? s

/-- Reads a fraction, if a point and a digit are there. -/
def fractionHere (s : List Char) : Option (List Nat) × List Char :=
  match s with
  | '.' :: rest =>
    match digitsHere? asciiDigit? rest with
    | some r => (some r.1, r.2)
    | none => (none, s)
  | _ => (none, s)

/-- Reads an exponent, if its letter, an optional sign and a digit are there. -/
def exponentHere (s : List Char) : Option Int × List Char :=
  match s with
  | c :: rest =>
    if c = 'e' ∨ c = 'E' then
      let (negative, body) := splitSign rest
      match digitsHere? asciiDigit? body with
      | some r => (some (if negative then -(ofDigits 10 r.1 : Int) else ofDigits 10 r.1), r.2)
      | none => (none, s)
    else (none, s)
  | [] => (none, s)

/-- The value of a number of base ten: an integer if it has neither fraction nor exponent. -/
def decimalValue (negative : Bool) (whole : List Nat) :
    Option (List Nat) → Option Int → Except Fault Value
  | none, none =>
    if digitLimit < whole.length then .error (.tooManyDigits whole.length)
    else .ok (.int (if negative then -(ofDigits 10 whole : Int) else ofDigits 10 whole))
  | fraction, exponent =>
    let fraction := fraction.getD []
    let x := toFloat (ofDigits 10 (whole ++ fraction)) (exponent.getD 0 - fraction.length)
    .ok (.float (if negative then -x else x))

/-- Reads a number, if one is there. -/
def numberHere? (s : List Char) : Option (Except Fault (Value × List Char)) :=
  match basedHere? s with
  | some r => some (.ok r)
  | none =>
    let (negative, body) := splitSign s
    (wholeHere? body).map fun (whole, rest) =>
      let (fraction, rest) := fractionHere rest
      let (exponent, rest) := exponentHere rest
      (decimalValue negative whole fraction exponent).map fun v => (v, rest)

/-- The words for numbers that have no digits. -/
def specialNumbers : List (List Char × Float) :=
  [("inf".toList, 1.0 / 0.0), ("nan".toList, 0.0 / 0.0), ("+inf".toList, 1.0 / 0.0),
    ("+nan".toList, 0.0 / 0.0), ("-inf".toList, -1.0 / 0.0), ("-nan".toList, 0.0 / 0.0)]

/-- Reads a word for a number, if one is there. -/
def specialHere? (s : List Char) : Option (Value × List Char) :=
  specialNumbers.findSome? fun w =>
    if w.1.isPrefixOf s then some (.float w.2, s.drop w.1.length) else none

end Fingerprint.Toml
