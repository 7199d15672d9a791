/-
The quoted form of a text, as it stands in messages and in the printed form of
a value: between single quotes, or between double quotes when the text holds a
single quote and no double one. The backslash, the chosen quote and characters
without a printed form are escaped.
-/
import Fingerprint.Text.PrintableTable
import Fingerprint.Text.Digit

namespace Fingerprint.Text

/-- Whether a character has a printed form. -/
def isPrintable (c : Char) : Bool := !inRanges unprintableRanges c

/-- The lower-case hexadecimal digit of a value below sixteen. -/
def hexDigit (n : Nat) : Char := Nat.digitChar n

/-- The last `width` hexadecimal digits of a number. -/
def hexDigits (width n : Nat) : List Char :=
  match width with
  | 0 => []
  | w + 1 => hexDigits w (n / 16) ++ [hexDigit (n % 16)]

/-- The quote that a text is put between. -/
def quoteFor (s : List Char) : Char :=
  if s.contains '\'' && !s.contains '"' then '"' else '\''

/-- One character of a quoted text. -/
def quotedChar (quote c : Char) : List Char :=
  if c = quote ∨ c = '\\' then ['\\', c]
  else if c = '\n' then ['\\', 'n']
  else if c = '\r' then ['\\', 'r']
  else if c = '\t' then ['\\', 't']
  else if isPrintable c then [c]
  else if c.toNat < 0x100 then '\\' :: 'x' :: hexDigits 2 c.toNat
  else if c.toNat < 0x10000 then '\\' :: 'u' :: hexDigits 4 c.toNat
  else '\\' :: 'U' :: hexDigits 8 c.toNat

/-- The quoted form of a text. -/
def quoted (s : List Char) : List Char :=
  let q := quoteFor s
  q :: (s.flatMap (quotedChar q) ++ [q])

/-- The quoted form of a text. -/
def quotedString (s : String) : String := String.ofList (quoted s.toList)

end Fingerprint.Text
