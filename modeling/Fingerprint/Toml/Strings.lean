/-
Strings of a document. A basic string stands between double quotes and takes
escapes, a literal string between single quotes and takes everything as it is;
either may be long, between three quotes, and then span lines. Control
characters are not allowed but for the tab, and the line feed in long strings.
-/
import Fingerprint.Text.Digit
import Fingerprint.Toml.Fault

namespace Fingerprint.Toml

open Text

/-- The ASCII control characters. -/
def isControl (c : Char) : Bool := c.toNat < 0x20 || c.toNat = 0x7F

/-- The characters that no string on one line holds. -/
def isIllegal (c : Char) : Bool := isControl c && c != '\t'

/-- The characters that no long string holds. -/
def isIllegalLong (c : Char) : Bool := isControl c && c != '\t' && c != '\n'

/-- The blanks within a line. -/
def isSpace (c : Char) : Bool := c = ' ' || c = '\t'

/-- The blanks within an array or at a line continuation. -/
def isSpaceOrBreak (c : Char) : Bool := c = ' ' || c = '\t' || c = '\n'

/-- The character that a one-letter escape stands for. -/
def simpleEscape? (c : Char) : Option Char :=
  match c with
  | 'b' => some '\x08'
  | 't' => some '\t'
  | 'n' => some '\n'
  | 'f' => some '\x0c'
  | 'r' => some '\r'
  | '"' => some '"'
  | '\\' => some '\\'
  | _ => none

/-- The character of hexadecimal digits; `here` begins with them and `rest` follows them. -/
def hexChar (ds here rest : List Char) : Except Fault Char :=
  match ds.mapM hexDigit? with
  | none => faultAt .hexValue here
  | some vs =>
    let n := ofDigits 16 vs
    if n < 0xD800 ∨ (0xE000 ≤ n ∧ n < 0x110000) then .ok (Char.ofNat n) else faultAt .notScalar rest

/-- Reads the rest of a basic string, up to and over its closing quote. -/
def basicTail : List Char → Except Fault (List Char × List Char)
  | [] => faultAt .openString []
  | '"' :: rest => .ok ([], rest)
  | '\\' :: 'u' :: a :: b :: c :: d :: rest => do
    let x ← hexChar [a, b, c, d] (a :: b :: c :: d :: rest) rest
    (basicTail rest).map fun r => (x :: r.1, r.2)
  | '\\' :: 'U' :: a :: b :: c :: d :: e :: f :: g :: h :: rest => do
    let x ← hexChar [a, b, c, d, e, f, g, h] (a :: b :: c :: d :: e :: f :: g :: h :: rest) rest
    (basicTail rest).map fun r => (x :: r.1, r.2)
  | '\\' :: c :: rest =>
    if c = 'u' ∨ c = 'U' then faultAt .hexValue rest
    else match simpleEscape? c with
      | none => faultAt .escape rest
      | some x => (basicTail rest).map fun r => (x :: r.1, r.2)
  | ['\\'] => faultAt .escape []
  | c :: rest =>
    if isIllegal c then faultAt (.illegalCharacter c) (c :: rest)
    else (basicTail rest).map fun r => (c :: r.1, r.2)

/-- The first character that `p` accepts, and what follows it. -/
def firstWhere? (p : Char → Bool) : List Char → Option (Char × List Char)
  | [] => none
  | c :: rest => if p c then some (c, rest) else firstWhere? p rest

/-- Refuses a text that holds a character that `p` accepts; `after` counts what follows the text. -/
def refuseWhere (p : Char → Bool) (s : List Char) (after : Nat) : Except Fault Unit :=
  match firstWhere? p s with
  | none => .ok ()
  | some (c, rest) => .error (.violated (.invalidCharacter c) (1 + rest.length + after))

/-- Reads the rest of a literal string. That it is closed is checked before what it holds. -/
def literalTail (s : List Char) : Except Fault (List Char × List Char) := do
  let text := s.takeWhile (· != '\'')
  match s.dropWhile (· != '\'') with
  | [] => faultAt .openLiteral []
  | quote :: rest =>
    refuseWhere isIllegal text (quote :: rest).length
    return (text, rest)

/-- Where a reader of a long string stands: in its text, after a backslash and a blank, or past a
line break that a backslash has taken out. -/
inductive Continuation where
  | none
  | beforeBreak
  | afterBreak
  deriving DecidableEq, Repr

/-- Reads the rest of a long basic string, up to and over three closing quotes. -/
def longBasicTail : Continuation → List Char → Except Fault (List Char × List Char)
  | _, [] => faultAt .openString []
  | .beforeBreak, c :: rest =>
    if isSpace c then longBasicTail .beforeBreak rest
    else if c = '\n' then longBasicTail .afterBreak rest
    else faultAt .escape (c :: rest)
  | _, '"' :: '"' :: '"' :: rest => .ok ([], rest)
  | _, '\\' :: 'u' :: a :: b :: c :: d :: rest => do
    let x ← hexChar [a, b, c, d] (a :: b :: c :: d :: rest) rest
    (longBasicTail .none rest).map fun r => (x :: r.1, r.2)
  | _, '\\' :: 'U' :: a :: b :: c :: d :: e :: f :: g :: h :: rest => do
    let x ← hexChar [a, b, c, d, e, f, g, h] (a :: b :: c :: d :: e :: f :: g :: h :: rest) rest
    (longBasicTail .none rest).map fun r => (x :: r.1, r.2)
  | _, '\\' :: c :: rest =>
    if c = '\n' then longBasicTail .afterBreak rest
    else if isSpace c then longBasicTail .beforeBreak rest
    else if c = 'u' ∨ c = 'U' then faultAt .hexValue rest
    else match simpleEscape? c with
      | .none => faultAt .escape rest
      | some x => (longBasicTail .none rest).map fun r => (x :: r.1, r.2)
  | _, ['\\'] => faultAt .escape []
  | k, c :: rest =>
    if k = .afterBreak && isSpaceOrBreak c then longBasicTail .afterBreak rest
    else if isIllegalLong c then faultAt (.illegalCharacter c) (c :: rest)
    else (longBasicTail .none rest).map fun r => (c :: r.1, r.2)

/-- What stands before the first three single quotes, and what follows them. -/
def untilLongQuote? : List Char → Option (List Char × List Char)
  | [] => none
  | '\'' :: '\'' :: '\'' :: rest => some ([], rest)
  | c :: rest => (untilLongQuote? rest).map fun r => (c :: r.1, r.2)

/-- Reads the rest of a long literal string. -/
def longLiteralTail (s : List Char) : Except Fault (List Char × List Char) := do
  match untilLongQuote? s with
  | none => faultAt .openLongLiteral []
  | some (text, rest) =>
    refuseWhere isIllegalLong text (rest.length + 3)
    return (text, rest)

/-- Up to two more quotes after a long string belong to it. -/
def moreQuotes (quote : Char) (r : List Char × List Char) : List Char × List Char :=
  match r.2 with
  | c :: d :: rest =>
    if c = quote ∧ d = quote then (r.1 ++ [quote, quote], rest)
    else if c = quote then (r.1 ++ [quote], d :: rest)
    else r
  | [c] => if c = quote then (r.1 ++ [quote], []) else r
  | [] => r

/-- A line feed right after the opening quotes does not belong to a long string. -/
def dropFirstBreak : List Char → List Char
  | '\n' :: rest => rest
  | s => s

/-- Reads a string if a quote begins one. -/
def stringHere? (s : List Char) : Option (Except Fault (List Char × List Char)) :=
  match s with
  | '"' :: '"' :: '"' :: rest =>
    some ((longBasicTail .none (dropFirstBreak rest)).map (moreQuotes '"'))
  | '"' :: rest => some (basicTail rest)
  | '\'' :: '\'' :: '\'' :: rest =>
    some ((longLiteralTail (dropFirstBreak rest)).map (moreQuotes '\''))
  | '\'' :: rest => some (literalTail rest)
  | _ => none

end Fingerprint.Toml
