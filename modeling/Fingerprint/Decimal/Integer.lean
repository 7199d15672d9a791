/-
Integers written in text: blanks around them, a sign, decimal digits of any
script and single underscores between digits. A run of more digits than
`digitLimit` is refused before anything after it is looked at.
-/
import Fingerprint.Text.Blank
import Fingerprint.Text.Digit
import Fingerprint.Text.Quoted

namespace Fingerprint.Decimal

open Text

/-- The most decimal digits that an integer may be written with. -/
def digitLimit : Nat := 4300

/-- The wording for an integer of too many digits. -/
def tooManyDigitsMessage (n : Nat) : String :=
  s!"Exceeds the limit ({digitLimit} digits) for integer string conversion: value has {n} digits; use sys.set_int_max_str_digits() to increase the limit"

/-- Why a text is no integer. -/
inductive LiteralError where
  | malformed (text : String)
  | tooManyDigits (count : Nat)
  deriving DecidableEq, Repr

/-- The wording; a malformed text is shown in quoted form, cut after two hundred characters. -/
def LiteralError.message : LiteralError → String
  | .malformed text =>
    "invalid literal for int() with base 10: " ++ String.ofList ((quoted text.toList).take 200)
  | .tooManyDigits count => tooManyDigitsMessage count

/-- The blanks that may surround an integer, all of them ASCII. -/
def isOuterBlank (c : Char) : Bool := c = ' ' || decide ('\t' ≤ c ∧ c ≤ '\r')

/-- Brings blanks and digits of any script to ASCII. What is neither stops the text, at a character
that no integer holds. -/
def toAscii : List Char → List Char
  | [] => []
  | c :: rest =>
    if c.toNat < 0x7F then c :: toAscii rest
    else if isBlank c then ' ' :: toAscii rest
    else match digitValue? c with
      | some d => Char.ofNat ('0'.toNat + d) :: toAscii rest
      | none => ['?']

/-- The digit values of a run of digits with single underscores between them, and the rest; none
if an underscore begins or ends the run or stands beside another. -/
def digitRun : List Char → Option (List Nat × List Char)
  | [] => some ([], [])
  | c :: '_' :: d :: rest =>
    match asciiDigit? c with
    | none => if c = '_' then none else some ([], c :: '_' :: d :: rest)
    | some v =>
      if (asciiDigit? d).isSome then (digitRun (d :: rest)).map fun r => (v :: r.1, r.2) else none
  | c :: rest =>
    match asciiDigit? c with
    | none => if c = '_' then none else some ([], c :: rest)
    | some v => (digitRun rest).map fun r => (v :: r.1, r.2)

/-- Splits a sign off. -/
def splitSign : List Char → Bool × List Char
  | '-' :: rest => (true, rest)
  | '+' :: rest => (false, rest)
  | rest => (false, rest)

/-- The integer that a text denotes. -/
def readInteger (text : String) : Except LiteralError Int :=
  let s := text.toList
  let ascii := if s.all fun c => decide (c.toNat < 0x80) then s else toAscii s
  let (negative, body) := splitSign (ascii.dropWhile isOuterBlank)
  match digitRun body with
  | none => .error (.malformed text)
  | some (ds, rest) =>
    if digitLimit < ds.length then .error (.tooManyDigits ds.length)
    else if ds.isEmpty || !rest.all isOuterBlank then .error (.malformed text)
    else .ok (if negative then -(ofDigits 10 ds : Int) else ofDigits 10 ds)

theorem splitSign_suffix (s : List Char) : (splitSign s).2 <:+ s := by
  unfold splitSign
  split
  next => exact List.suffix_cons _ _
  next => exact List.suffix_cons _ _
  next => exact List.suffix_rfl

end Fingerprint.Decimal
