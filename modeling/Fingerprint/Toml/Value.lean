/-
The values of a configuration document. A table remembers the order of its
members, and no table built by the reader has a member twice. Dates and times
are written in ISO form, the fraction of a second only where it is not zero.
-/
import Fingerprint.Calendar.Moment
import Fingerprint.Table

namespace Fingerprint.Toml

open Calendar Decimal

/-- A value. An offset is a number of minutes ahead of universal time. -/
inductive Value where
  | string (s : String)
  | int (n : Int)
  | float (x : Float)
  | bool (b : Bool)
  | datetime (date : Date) (time : TimeOfDay) (offset : Option Int)
  | date (d : Date)
  | time (t : TimeOfDay)
  | array (items : List Value)
  | table (members : List (String × Value))
  deriving Inhabited

/-- The members of a table, in order of first arrival. -/
abbrev Members := List (String × Value)

/-- The path of names to a table or member. -/
abbrev Key := List String

namespace Value

/-- The members of a table. -/
def table? : Value → Option Members
  | table members => some members
  | _ => none

/-- The string that a value is. -/
def string? : Value → Option String
  | string s => some s
  | _ => none

/-- Whether a value is an array or a table, and so closed once it is written. -/
def isNest : Value → Bool
  | array _ => true
  | table _ => true
  | _ => false

end Value

/-- A date in ISO form. -/
def dateText (d : Date) : List Char :=
  padZeros 4 (natText d.year) ++ '-' :: twoDigits d.month ++ '-' :: twoDigits d.day

/-- A time of day in ISO form. -/
def timeText (t : TimeOfDay) : List Char :=
  twoDigits t.hour ++ ':' :: twoDigits t.minute ++ ':' :: twoDigits t.second
    ++ (if t.micros = 0 then [] else '.' :: padZeros 6 (natText t.micros))

/-- An offset in ISO form. -/
def offsetText (minutes : Int) : List Char :=
  (if minutes < 0 then '-' else '+') :: twoDigits (minutes.natAbs / 60)
    ++ ':' :: twoDigits (minutes.natAbs % 60)

/-- A date and time in ISO form. -/
def datetimeText (d : Date) (t : TimeOfDay) (offset : Option Int) : List Char :=
  dateText d ++ 'T' :: timeText t ++ ((offset.map offsetText).getD [])

end Fingerprint.Toml
