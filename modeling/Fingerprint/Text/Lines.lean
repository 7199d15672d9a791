/-
Lines of a text. A line ends at a line feed, a carriage return, the two
together, or one of the rarer line boundaries; what follows the last boundary
is a line only if it is not empty.

`unifyBreaks` is the reading of a text file: a carriage return, alone or
before a line feed, becomes one line feed.
-/
import Fingerprint.Text.Blank

namespace Fingerprint.Text

/-- The characters at which a line ends. -/
def isLineBreak (c : Char) : Bool :=
  inRanges [(0x0A, 0x0D), (0x1C, 0x1E), (0x85, 0x85), (0x2028, 0x2029)] c

/-- Puts a character at the front of the first line. -/
def consLine (c : Char) : List (List Char) → List (List Char)
  | [] => [[c]]
  | l :: ls => (c :: l) :: ls

/-- The lines without their line breaks. -/
def lines : List Char → List (List Char)
  | [] => []
  | '\r' :: '\n' :: rest => [] :: lines rest
  | c :: rest => if isLineBreak c then [] :: lines rest else consLine c (lines rest)

/-- Every `\r\n` and every other `\r` becomes `\n`. -/
def unifyBreaks : List Char → List Char
  | [] => []
  | '\r' :: '\n' :: rest => '\n' :: unifyBreaks rest
  | c :: rest => (if c = '\r' then '\n' else c) :: unifyBreaks rest

/-- Every `\r\n` becomes `\n`; other carriage returns stay. -/
def foldCrLf : List Char → List Char
  | [] => []
  | '\r' :: '\n' :: rest => '\n' :: foldCrLf rest
  | c :: rest => c :: foldCrLf rest

theorem unifyBreaks_of_not_mem {cs : List Char} (h : '\r' ∉ cs) : unifyBreaks cs = cs := by
  fun_induction unifyBreaks cs with
  | case1 => rfl
  | case2 rest ih => simp at h
  | case3 c rest _ ih =>
    rw [List.mem_cons, not_or] at h
    rw [ih h.2, if_neg (Ne.symm h.1)]

theorem not_isLineBreak_of_mem_lines {s : List Char} :
    ∀ l ∈ lines s, ∀ c ∈ l, isLineBreak c = false := by
  fun_induction lines s with
  | case1 => simp
  | case2 rest ih => simpa using ih
  | case3 c rest _ h ih => simpa using ih
  | case4 c rest _ h ih =>
    intro l hl
    cases hr : lines rest with
    | nil =>
      rw [hr] at hl
      simp only [consLine, List.mem_singleton] at hl
      subst hl
      simpa using h
    | cons l' ls =>
      rw [hr] at hl ih
      simp only [consLine, List.mem_cons] at hl
      rcases hl with rfl | hl
      · intro x hx
        rcases List.mem_cons.1 hx with rfl | hx
        · simpa using h
        · exact ih l' (by simp) x hx
      · exact ih l (by simp [hl])

end Fingerprint.Text
