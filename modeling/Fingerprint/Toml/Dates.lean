/-
Dates and times of a document, recognised by their form alone; whether the day
exists is checked after that. Of a fraction of a second six digits count.
-/
import Fingerprint.Toml.Fault

namespace Fingerprint.Toml

open Text Calendar

/-- Reads two digits that denote a number within bounds. -/
def twoDigitNumber? (low high : Nat) (s : List Char) : Option (Nat × List Char) := do
  let r ← fixedNumber? 2 s
  if low ≤ r.1 ∧ r.1 ≤ high then return r else none

/-- Reads the fraction of a second, if a point and a digit are there. -/
def microseconds (s : List Char) : Nat × List Char :=
  match s with
  | '.' :: d :: _ => if d.isDigit then fraction s else (0, s)
  | _ => (0, s)

/-- Reads a time of day. -/
def timeHere? (s : List Char) : Option (TimeOfDay × List Char) := do
  let (hour, s) ← twoDigitNumber? 0 23 s
  let (minute, s) ← twoDigitNumber? 0 59 (← char? ':' s)
  let (second, s) ← twoDigitNumber? 0 59 (← char? ':' s)
  let (micros, s) := microseconds s
  return (⟨hour, minute, second, micros⟩, s)

/-- Reads an offset in minutes, if one is there. -/
def offsetHere (s : List Char) : Option Int × List Char :=
  let signed (sign : Int) (rest : List Char) : Option Int × List Char :=
    let offset? : Option (Int × List Char) := do
      let (hours, s) ← twoDigitNumber? 0 23 rest
      let (minutes, s) ← twoDigitNumber? 0 59 (← char? ':' s)
      return (sign * (hours * 60 + minutes : Nat), s)
    match offset? with
    | some (offset, rest) => (some offset, rest)
    | none => (none, s)
  match s with
  | 'Z' :: rest => (some 0, rest)
  | 'z' :: rest => (some 0, rest)
  | '+' :: rest => signed 1 rest
  | '-' :: rest => signed (-1) rest
  | _ => (none, s)

/-- Reads a date as written. -/
def dateHere? (s : List Char) : Option (Date × List Char) := do
  let (year, s) ← fixedNumber? 4 s
  let (month, s) ← twoDigitNumber? 1 12 (← char? '-' s)
  let (day, s) ← twoDigitNumber? 1 31 (← char? '-' s)
  return (⟨year, month, day⟩, s)

/-- Reads the time after a date, if a separator and a time are there. -/
def timeAfterDate? (s : List Char) : Option (TimeOfDay × List Char) :=
  match s with
  | c :: rest => if c = 'T' ∨ c = 't' ∨ c = ' ' then timeHere? rest else none
  | [] => none

/-- Reads a date, a date with a time, or a time, if one is there. -/
def momentHere? (s : List Char) : Option (Except Fault (Value × List Char)) :=
  match dateHere? s with
  | some (d, rest) =>
    let (v, rest) := match timeAfterDate? rest with
      | some (t, rest) => let o := offsetHere rest; (Value.datetime d t o.1, o.2)
      | none => (.date d, rest)
    some (if d.isValid then .ok (v, rest) else faultAt .date s)
  | none => (timeHere? s).map fun r => .ok (.time r.1, r.2)

end Fingerprint.Toml
