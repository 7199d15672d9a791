/-
Texts in which surrogates may stand, as they may in the strings of some
languages. UTF-8 has no bytes for a surrogate, so such a text cannot be
encoded, and what is reported are the first surrogates that stand in a row.
-/
import Fingerprint.Text.Quoted
import Fingerprint.Text.Utf8

namespace Fingerprint.Text

/-- A surrogate, by its distance from U+D800. -/
abbrev Surrogate := Fin 0x800

/-- A character or a surrogate. -/
inductive CodePoint where
  | char (c : Char)
  | surrogate (s : Surrogate)
  deriving DecidableEq, Repr

/-- A text in which surrogates may stand. -/
abbrev WideText := List CodePoint

/-- A text without surrogates. -/
def wide (s : String) : WideText := s.toList.map .char

/-- The surrogates with which a text begins. -/
def leadingSurrogates : WideText → List Surrogate
  | .surrogate s :: rest => s :: leadingSurrogates rest
  | _ => []

/-- Why a text cannot be encoded: the position of its first surrogate, this one, and those that
follow it in a row. -/
structure EncodingFault where
  position : Nat
  first : Surrogate
  further : List Surrogate
  deriving DecidableEq, Repr

/-- The wording of a fault. -/
def EncodingFault.message (f : EncodingFault) : String :=
  if f.further.isEmpty then
    let digits := String.ofList (hexDigits 4 (0xD800 + f.first.val))
    "'utf-8' codec can't encode character '\\u" ++ digits
      ++ s!"' in position {f.position}: surrogates not allowed"
  else
    s!"'utf-8' codec can't encode characters in position {f.position}-{f.position + f.further.length}: surrogates not allowed"

/-- The bytes of a text that begins at a position of a longer one. -/
def encodeFrom (position : Nat) : WideText → Except EncodingFault (List UInt8)
  | [] => .ok []
  | .char c :: rest => (encodeFrom (position + 1) rest).map (Utf8.encodeChar c ++ ·)
  | .surrogate s :: rest => .error ⟨position, s, leadingSurrogates rest⟩

/-- What a file can be given as its content. -/
class Content (α : Type) where
  /-- The bytes of a content in UTF-8, or why it has none. -/
  encode : α → Except EncodingFault (List UInt8)

instance : Content String where
  encode s := .ok (Utf8.encode s.toList)

instance : Content WideText where
  encode s := encodeFrom 0 s

theorem encodeFrom_map_char (position : Nat) (s : List Char) :
    encodeFrom position (s.map .char) = .ok (Utf8.encode s) := by
  induction s generalizing position with
  | nil => rfl
  | cons c s ih =>
    rw [List.map_cons, encodeFrom, ih]
    rfl

/-- Without surrogates a text has the bytes that it always has. -/
theorem encode_wide (s : String) : Content.encode (wide s) = Content.encode s :=
  encodeFrom_map_char 0 s.toList

end Fingerprint.Text
