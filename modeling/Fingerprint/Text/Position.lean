/-
Positions in a text: an offset in characters from the start, with the line and
the column that it falls on. Lines end at line feeds; lines and columns count
from one.
-/
namespace Fingerprint.Text

/-- A place in a text. -/
structure Position where
  offset : Nat
  line : Nat
  column : Nat
  deriving DecidableEq, Repr

/-- Moves a place past one character. -/
def Position.advance (p : Position) (c : Char) : Position :=
  if c = '\n' then ⟨p.offset + 1, p.line + 1, 1⟩ else ⟨p.offset + 1, p.line, p.column + 1⟩

/-- The place that lies `offset` characters into a text. -/
def Position.at (text : List Char) (offset : Nat) : Position :=
  (text.take offset).foldl Position.advance ⟨0, 1, 1⟩

theorem Position.at_append {line : List Char} (h : '\n' ∉ line) (rest : List Char) :
    Position.at (line ++ rest) line.length = ⟨line.length, 1, line.length + 1⟩ := by
  have key : ∀ (s : List Char) (p : Position), '\n' ∉ s →
      s.foldl advance p = ⟨p.offset + s.length, p.line, p.column + s.length⟩ := by
    intro s
    induction s with
    | nil => intro p _; rfl
    | cons c s ih =>
      intro p hs
      rw [List.mem_cons, not_or] at hs
      rw [List.foldl_cons, ih _ hs.2, advance, if_neg (Ne.symm hs.1), List.length_cons]
      simp only [Position.mk.injEq, true_and]
      omega
  rw [Position.at, List.take_left, key _ _ h]
  simp [Nat.add_comm]

end Fingerprint.Text
