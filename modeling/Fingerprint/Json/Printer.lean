/-
Writing JSON as ASCII text, in two layouts: on one line, with a space after
each comma and colon, or with every item on a line of its own, indented by two
spaces for each level. Characters beyond ASCII are written as escapes of their
16-bit code units.
-/
import Fingerprint.Decimal.FloatText
import Fingerprint.Json.Value
import Fingerprint.Text.Quoted

namespace Fingerprint.Json

open Text Decimal

/-- The escape of a code unit. -/
def unicodeEscape (n : Nat) : List Char := '\\' :: 'u' :: hexDigits 4 n

/-- One character of a string. -/
def escapedChar (c : Char) : List Char :=
  if c = '"' then ['\\', '"']
  else if c = '\\' then ['\\', '\\']
  else if c = '\n' then ['\\', 'n']
  else if c = '\r' then ['\\', 'r']
  else if c = '\t' then ['\\', 't']
  else if c = '\x08' then ['\\', 'b']
  else if c = '\x0c' then ['\\', 'f']
  else if ' ' ≤ c ∧ c ≤ '~' then [c]
  else if c.toNat < 0x10000 then unicodeEscape c.toNat
  else
    unicodeEscape (0xD800 + (c.toNat - 0x10000) / 0x400)
      ++ unicodeEscape (0xDC00 + (c.toNat - 0x10000) % 0x400)

/-- A string between its quotes. -/
def stringText (s : String) : List Char := '"' :: (s.toList.flatMap escapedChar ++ ['"'])

/-- An integer in decimal. -/
def intText (n : Int) : List Char := if n < 0 then '-' :: natText n.natAbs else natText n.natAbs

/-- A floating-point number. -/
def numberText (x : Float) : List Char :=
  if x.isNaN then "NaN".toList
  else if x.isInf then (if x < 0.0 then "-Infinity".toList else "Infinity".toList)
  else floatText x

mutual

/-- A value on one line. -/
def printLine : Value → List Char
  | .null => "null".toList
  | .bool true => "true".toList
  | .bool false => "false".toList
  | .int n => intText n
  | .float x => numberText x
  | .string s => stringText s
  | .array [] => ['[', ']']
  | .array (v :: vs) => '[' :: (printLine v ++ printLineItems vs)
  | .object [] => ['\x7b', '\x7d']
  | .object ((name, v) :: ms) =>
    '\x7b' :: (stringText name ++ [':', ' '] ++ printLine v ++ printLineMembers ms)

/-- The elements after the first, and the bracket. -/
def printLineItems : List Value → List Char
  | [] => [']']
  | v :: vs => [',', ' '] ++ printLine v ++ printLineItems vs

/-- The members after the first, and the brace. -/
def printLineMembers : List (String × Value) → List Char
  | [] => ['\x7d']
  | (name, v) :: ms =>
    [',', ' '] ++ stringText name ++ [':', ' '] ++ printLine v ++ printLineMembers ms

end

/-- A line feed and the indentation of a level. -/
def newLine (level : Nat) : List Char := '\n' :: List.replicate (2 * level) ' '

mutual

/-- A value whose items stand on lines of their own, at a level of nesting. -/
def printIndented (level : Nat) : Value → List Char
  | .null => "null".toList
  | .bool true => "true".toList
  | .bool false => "false".toList
  | .int n => intText n
  | .float x => numberText x
  | .string s => stringText s
  | .array [] => ['[', ']']
  | .array (v :: vs) =>
    '[' :: (newLine (level + 1) ++ printIndented (level + 1) v ++ printIndentedItems level vs)
  | .object [] => ['\x7b', '\x7d']
  | .object ((name, v) :: ms) =>
    '\x7b' :: (newLine (level + 1) ++ stringText name ++ [':', ' '] ++ printIndented (level + 1) v
      ++ printIndentedMembers level ms)

/-- The elements after the first, and the bracket on its own line. -/
def printIndentedItems (level : Nat) : List Value → List Char
  | [] => newLine level ++ [']']
  | v :: vs =>
    ',' :: (newLine (level + 1) ++ printIndented (level + 1) v ++ printIndentedItems level vs)

/-- The members after the first, and the brace on its own line. -/
def printIndentedMembers (level : Nat) : List (String × Value) → List Char
  | [] => newLine level ++ ['\x7d']
  | (name, v) :: ms =>
    ',' :: (newLine (level + 1) ++ stringText name ++ [':', ' '] ++ printIndented (level + 1) v
      ++ printIndentedMembers level ms)

end

/-- The value on one line. -/
def Value.compact (v : Value) : String := String.ofList (printLine v)

/-- The value over several lines. -/
def Value.pretty (v : Value) : String := String.ofList (printIndented 0 v)

end Fingerprint.Json
