/-
The text of a JSON value where a message or a version shows it: strings in
quoted form, and `None`, `True` and `False` for the three words. A string that
is shown by itself stands without quotes.
-/
import Fingerprint.Decimal.FloatText
import Fingerprint.Json.Printer

namespace Fingerprint.Json

open Text Decimal

mutual

/-- The text of a value within another. -/
def Value.shown : Value → List Char
  | .null => "None".toList
  | .bool true => "True".toList
  | .bool false => "False".toList
  | .int n => intText n
  | .float x => floatText x
  | .string s => quoted s.toList
  | .array [] => ['[', ']']
  | .array (v :: vs) => '[' :: (v.shown ++ shownItems vs)
  | .object [] => ['\x7b', '\x7d']
  | .object ((name, v) :: ms) =>
    '\x7b' :: (quoted name.toList ++ [':', ' '] ++ v.shown ++ shownMembers ms)

/-- The elements after the first, and the bracket. -/
def shownItems : List Value → List Char
  | [] => [']']
  | v :: vs => [',', ' '] ++ v.shown ++ shownItems vs

/-- The members after the first, and the brace. -/
def shownMembers : List (String × Value) → List Char
  | [] => ['\x7d']
  | (name, v) :: ms => [',', ' '] ++ quoted name.toList ++ [':', ' '] ++ v.shown ++ shownMembers ms

end

/-- The text of a value in quoted form. -/
def Value.quoted (v : Value) : String := String.ofList v.shown

/-- The text of a value by itself. -/
def Value.display : Value → String
  | .string s => s
  | v => v.quoted

end Fingerprint.Json
