/-
Moments: a date and a time of day with the offset of its clock from universal
time. A moment is read from ISO text and written as a timestamp, which is the
universal time with the fraction of a second dropped; there is none outside
the years 1 to 9999.
-/
import Fingerprint.Calendar.Date
import Fingerprint.Decimal.FloatText
import Fingerprint.Text.Digit

namespace Fingerprint.Calendar

open Text Decimal

/-- A time of day. -/
structure TimeOfDay where
  hour : Nat
  minute : Nat
  second : Nat
  micros : Nat := 0
  deriving DecidableEq, Repr, Inhabited

/-- The microseconds of a day. -/
def microsPerDay : Nat := 86400000000

/-- The microseconds since midnight. -/
def TimeOfDay.sinceMidnight (t : TimeOfDay) : Nat :=
  ((t.hour * 60 + t.minute) * 60 + t.second) * 1000000 + t.micros

/-- The time of day so many microseconds after midnight. -/
def TimeOfDay.after (micros : Nat) : TimeOfDay :=
  let seconds := micros / 1000000
  ⟨seconds / 3600 % 24, seconds / 60 % 60, seconds % 60, micros % 1000000⟩

/-- A date and time on a clock that is `offset` microseconds ahead of universal time. -/
structure Moment where
  date : Date
  time : TimeOfDay
  offset : Int
  deriving DecidableEq, Repr, Inhabited

/-- The instant of a moment, in microseconds from the start of year 1. -/
def Moment.instant (m : Moment) : Int :=
  ((m.date.dayNumber : Int) - 1) * microsPerDay + m.time.sinceMidnight - m.offset

/-- The universal date and time of an instant, within the years 1 to 9999. -/
def universal? (instant : Int) : Option (Date × TimeOfDay) :=
  if instant < 0 then none
  else
    let n := instant.toNat
    let day := n / microsPerDay + 1
    if lastDayNumber < day then none
    else some (Date.ofDayNumber day, TimeOfDay.after (n % microsPerDay))

/-- The day number of the first of January 1970. -/
def epochDayNumber : Nat := 719163

/-- The moment so many seconds after the start of 1970, in universal time. -/
def Moment.ofEpoch (seconds : Nat) : Moment :=
  ⟨Date.ofDayNumber (seconds / 86400 + epochDayNumber), TimeOfDay.after (seconds % 86400 * 1000000), 0⟩

/-- A number with at least two digits. -/
def twoDigits (n : Nat) : List Char := padZeros 2 (natText n)

/-- The timestamp of a moment. -/
def Moment.timestamp? (m : Moment) : Option String :=
  (universal? m.instant).map fun u =>
    String.ofList (natText u.1.year ++ '-' :: twoDigits u.1.month ++ '-' :: twoDigits u.1.day
      ++ 'T' :: twoDigits u.2.hour ++ ':' :: twoDigits u.2.minute ++ ':' :: twoDigits u.2.second
      ++ ['Z'])

/-- The wording when a moment has no timestamp. -/
def outOfRangeMessage : String := "date value out of range"

/-- Reads exactly `width` digits. -/
def fixedNumber? (width : Nat) (s : List Char) : Option (Nat × List Char) := do
  let ds ← (s.take width).mapM asciiDigit?
  if ds.length = width then return (ofDigits 10 ds, s.drop width) else none

/-- Reads one given character. -/
def char? (c : Char) : List Char → Option (List Char)
  | d :: rest => if d = c then some rest else none
  | [] => none

/-- Reads the microseconds after a point, of which at most six digits count. -/
def fraction (s : List Char) : Nat × List Char :=
  match s with
  | '.' :: rest =>
    let ds := (rest.takeWhile Char.isDigit).filterMap asciiDigit?
    let six := (ds ++ List.replicate 6 0).take 6
    (ofDigits 10 six, rest.dropWhile Char.isDigit)
  | _ => (0, s)

/-- Reads ISO text: date, `T`, time, perhaps a fraction, and a signed offset. -/
def Moment.ofIso? (text : String) : Option Moment := do
  let (year, s) ← fixedNumber? 4 text.toList
  let (month, s) ← fixedNumber? 2 (← char? '-' s)
  let (day, s) ← fixedNumber? 2 (← char? '-' s)
  let (hour, s) ← fixedNumber? 2 (← char? 'T' s)
  let (minute, s) ← fixedNumber? 2 (← char? ':' s)
  let (second, s) ← fixedNumber? 2 (← char? ':' s)
  let (micros, s) := fraction s
  let (sign, s) ← match s with
    | '+' :: rest => some ((1 : Int), rest)
    | '-' :: rest => some (-1, rest)
    | _ => none
  let (offsetHours, s) ← fixedNumber? 2 s
  let (offsetMinutes, s) ← fixedNumber? 2 (← char? ':' s)
  if s.isEmpty then
    return ⟨⟨year, month, day⟩, ⟨hour, minute, second, micros⟩,
      sign * ((offsetHours * 60 + offsetMinutes) * 60000000 : Nat)⟩
  else none

end Fingerprint.Calendar
