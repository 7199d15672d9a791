/-
Keys and strings as they are written in a document. A string stands between
double quotes, with escapes for the quote, the backslash and every control
character, so that it never leaves its line. A key is written bare where the
format allows it.
-/
import Fingerprint.Text.Quoted

namespace Fingerprint.Toml

open Text

/-- The upper-case hexadecimal digit of a value below sixteen. -/
def upperHexDigit (n : Nat) : Char := (Nat.digitChar n).toUpper

/-- One character of a string. -/
def escapedChar (c : Char) : List Char :=
  if c = '\\' then ['\\', '\\']
  else if c = '"' then ['\\', '"']
  else if c = '\x08' then ['\\', 'b']
  else if c = '\t' then ['\\', 't']
  else if c = '\n' then ['\\', 'n']
  else if c = '\x0c' then ['\\', 'f']
  else if c = '\r' then ['\\', 'r']
  else if c.toNat < 0x20 ∨ c.toNat = 0x7F then
    ['\\', 'u', '0', '0', upperHexDigit (c.toNat / 16), upperHexDigit (c.toNat % 16)]
  else [c]

/-- A string between its quotes. -/
def quote (s : List Char) : List Char := '"' :: (s.flatMap escapedChar ++ ['"'])

/-- The characters of a bare key: ASCII letters and digits, the hyphen and the underscore. -/
def isBareChar (c : Char) : Bool := c.isAlphanum || c = '_' || c = '-'

/-- Whether a key is written bare: it has only such characters and at least one of them; a single
line feed at its end is passed over. -/
def isBareKey (s : List Char) : Bool :=
  let body := s.takeWhile isBareChar
  let rest := s.dropWhile isBareChar
  !body.isEmpty && (rest.isEmpty || rest == ['\n'])

/-- A key as it is written. -/
def formatKey (s : List Char) : List Char := if isBareKey s then s else quote s

end Fingerprint.Toml
