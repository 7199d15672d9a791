/-
What is wrong with a document, and where. A fault carries the number of
characters from its place to the end of the text; at zero its place is the end
of the document. An integer of too many digits is a fault without a place.
-/
import Fingerprint.Decimal.Integer
import Fingerprint.Text.Position
import Fingerprint.Text.Split
import Fingerprint.Toml.Value

namespace Fingerprint.Toml

open Text

/-- What a document violates. -/
inductive Cause where
  | statement
  | endOfStatement
  | declaredTwice (key : Key)
  | overwrittenValue
  | redefinedNamespace (key : Key)
  | immutableNamespace (key : Key)
  | tableBracket
  | arrayBrackets
  | equalsSign
  | keyStart
  | openArray
  | openInlineTable
  | duplicateInlineKey (name : String)
  | escape
  | hexValue
  | notScalar
  | openString
  | illegalCharacter (c : Char)
  | invalidCharacter (c : Char)
  | openLiteral
  | openLongLiteral
  | date
  | value
  deriving DecidableEq, Repr

/-- A key as messages show it: its names in quoted form between parentheses. -/
def showKey (key : Key) : String :=
  match key with
  | [name] => "(" ++ quotedString name ++ ",)"
  | names => "(" ++ joinStrings ", " (names.map quotedString) ++ ")"

/-- A character as messages show it. -/
def showChar (c : Char) : String := String.ofList (quoted [c])

/-- The wording of a cause. -/
def Cause.message : Cause → String
  | statement => "Invalid statement"
  | endOfStatement => "Expected newline or end of document after a statement"
  | declaredTwice key => s!"Cannot declare {showKey key} twice"
  | overwrittenValue => "Cannot overwrite a value"
  | redefinedNamespace key => s!"Cannot redefine namespace {showKey key}"
  | immutableNamespace key => s!"Cannot mutate immutable namespace {showKey key}"
  | tableBracket => "Expected ']' at the end of a table declaration"
  | arrayBrackets => "Expected ']]' at the end of an array declaration"
  | equalsSign => "Expected '=' after a key in a key/value pair"
  | keyStart => "Invalid initial character for a key part"
  | openArray => "Unclosed array"
  | openInlineTable => "Unclosed inline table"
  | duplicateInlineKey name => s!"Duplicate inline table key {quotedString name}"
  | escape => "Unescaped '\\' in a string"
  | hexValue => "Invalid hex value"
  | notScalar => "Escaped character is not a Unicode scalar value"
  | openString => "Unterminated string"
  | illegalCharacter c => s!"Illegal character {showChar c}"
  | invalidCharacter c => s!"Found invalid character {showChar c}"
  | openLiteral => "Expected \"'\""
  | openLongLiteral => "Expected \"'''\""
  | date => "Invalid date or datetime"
  | value => "Invalid value"

/-- A fault met while reading. -/
inductive Fault where
  | violated (cause : Cause) (rest : Nat)
  | tooManyDigits (count : Nat)
  deriving DecidableEq, Repr

/-- What a reader gives: a result and the characters after it. -/
abbrev Step (α : Type) := Except Fault (α × List Char)

/-- A violation at the start of `s`. -/
def faultAt {α : Type} (cause : Cause) (s : List Char) : Except Fault α :=
  .error (.violated cause s.length)

/-- Why a text is no document: a violation at a position or at the end, or an integer of too many
digits. -/
inductive ReadError where
  | violated (cause : Cause) (position : Option Position)
  | tooManyDigits (count : Nat)
  deriving DecidableEq, Repr

/-- Places a fault in its text. -/
def Fault.locate (text : List Char) : Fault → ReadError
  | violated cause rest =>
    .violated cause
      (if rest = 0 then none else some (Position.at text (text.length - rest)))
  | tooManyDigits count => .tooManyDigits count

/-- The wording of an error. -/
def ReadError.message : ReadError → String
  | violated cause none => s!"{cause.message} (at end of document)"
  | violated cause (some p) => s!"{cause.message} (at line {p.line}, column {p.column})"
  | tooManyDigits count => Decimal.tooManyDigitsMessage count

end Fingerprint.Toml
