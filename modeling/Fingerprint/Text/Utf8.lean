/-
UTF-8. `encode` writes characters as bytes; `pieces` reads any bytes as
characters and flaws, a flaw being the longest run of bytes that begins a
character but does not end one, or a single byte that begins none.

From the pieces come two readings: `decodeLossy` puts U+FFFD for every flaw,
`decode` refuses the bytes at the first flaw and says where it is.
-/
namespace Fingerprint.Text.Utf8

/-- The bytes of one character. -/
def encodeChar (c : Char) : List UInt8 :=
  let n := c.toNat
  if n < 0x80 then [n.toUInt8]
  else if n < 0x800 then [(0xC0 + n / 0x40).toUInt8, (0x80 + n % 0x40).toUInt8]
  else if n < 0x10000 then
    [(0xE0 + n / 0x1000).toUInt8, (0x80 + n / 0x40 % 0x40).toUInt8, (0x80 + n % 0x40).toUInt8]
  else
    [(0xF0 + n / 0x40000).toUInt8, (0x80 + n / 0x1000 % 0x40).toUInt8,
      (0x80 + n / 0x40 % 0x40).toUInt8, (0x80 + n % 0x40).toUInt8]

/-- The bytes of a text. -/
def encode (s : List Char) : List UInt8 := s.flatMap encodeChar

/-- Why bytes are no character. -/
inductive Flaw where
  | badStart
  | badContinuation
  | endOfData
  deriving DecidableEq, Repr

/-- The wording of a flaw. -/
def Flaw.message : Flaw → String
  | .badStart => "invalid start byte"
  | .badContinuation => "invalid continuation byte"
  | .endOfData => "unexpected end of data"

/-- A character, or a flaw with the number of bytes that it covers. -/
inductive Piece where
  | char (c : Char)
  | flaw (cause : Flaw) (width : Nat)
  deriving DecidableEq, Repr

/-- What a first byte asks for: how many more bytes, the bounds of the second byte, and its own
share of the code point. -/
structure Lead where
  extra : Nat
  low : UInt8
  high : UInt8
  bits : Nat

/-- What a byte asks for if it begins a character. -/
def lead? (b : UInt8) : Option Lead :=
  if b < 0x80 then some ⟨0, 0x80, 0xBF, b.toNat⟩
  else if b < 0xC2 then none
  else if b < 0xE0 then some ⟨1, 0x80, 0xBF, b.toNat - 0xC0⟩
  else if b < 0xF0 then
    some ⟨2, if b = 0xE0 then 0xA0 else 0x80, if b = 0xED then 0x9F else 0xBF, b.toNat - 0xE0⟩
  else if b < 0xF5 then
    some ⟨3, if b = 0xF0 then 0x90 else 0x80, if b = 0xF4 then 0x8F else 0xBF, b.toNat - 0xF0⟩
  else none

/-- Reads up to `extra` bytes within the bounds, which widen after the first: how many fit, and
the code point that they make with the bits so far. -/
def continuation (low high : UInt8) : Nat → Nat → List UInt8 → Nat × Nat
  | 0, bits, _ => (0, bits)
  | _ + 1, bits, [] => (0, bits)
  | n + 1, bits, b :: rest =>
    if low ≤ b ∧ b ≤ high then
      let r := continuation 0x80 0xBF n (bits * 0x40 + (b.toNat - 0x80)) rest
      (r.1 + 1, r.2)
    else (0, bits)

/-- The piece that a byte begins, and how many of the following bytes belong to it. -/
def pieceAt (b : UInt8) (rest : List UInt8) : Piece × Nat :=
  match lead? b with
  | none => (.flaw .badStart 1, 0)
  | some l =>
    let r := continuation l.low l.high l.extra l.bits rest
    if r.1 = l.extra then (.char (Char.ofNat r.2), r.1)
    else if (rest.drop r.1).isEmpty then (.flaw .endOfData (r.1 + 1), r.1)
    else (.flaw .badContinuation (r.1 + 1), r.1)

/-- The pieces of what follows the next `skip` bytes. -/
def piecesAfter : Nat → List UInt8 → List Piece
  | _, [] => []
  | skip + 1, _ :: rest => piecesAfter skip rest
  | 0, b :: rest => (pieceAt b rest).1 :: piecesAfter (pieceAt b rest).2 rest

/-- The characters and flaws of a sequence of bytes. -/
def pieces (bytes : List UInt8) : List Piece := piecesAfter 0 bytes

/-- The text, with U+FFFD in the place of every flaw. -/
def decodeLossy (bytes : List UInt8) : List Char :=
  (pieces bytes).map fun
    | .char c => c
    | .flaw _ _ => '\uFFFD'

/-- A flaw, the position of its first byte and that byte, and its width. -/
structure Fault where
  cause : Flaw
  position : Nat
  byte : UInt8
  width : Nat
  deriving DecidableEq, Repr

/-- The text of the pieces, or the cause, position and width of the first flaw. -/
def textOf (position : Nat) : List Piece → Except (Flaw × Nat × Nat) (List Char)
  | [] => .ok []
  | .flaw cause width :: _ => .error (cause, position, width)
  | .char c :: rest => (textOf (position + (encodeChar c).length) rest).map (c :: ·)

/-- The text, unless the bytes have a flaw. -/
def decode (bytes : List UInt8) : Except Fault (List Char) :=
  (textOf 0 (pieces bytes)).mapError fun f => ⟨f.1, f.2.1, bytes.getD f.2.1 0, f.2.2⟩

/-- The wording of a fault. -/
def Fault.message (f : Fault) : String :=
  let hex (b : UInt8) : String :=
    String.ofList [Nat.digitChar (b.toNat / 16), Nat.digitChar (b.toNat % 16)]
  if f.width = 1 then
    s!"'utf-8' codec can't decode byte 0x{hex f.byte} in position {f.position}: {f.cause.message}"
  else
    s!"'utf-8' codec can't decode bytes in position {f.position}-{f.position + f.width - 1}: {f.cause.message}"

end Fingerprint.Text.Utf8
