/-
How alike two texts are: twice the characters that their matching blocks
share, out of the characters of both. The longest common block is matched
first, the leftmost of several, and then what lies on either side of it.
-/
namespace Fingerprint.Text

/-- The length of the longest common beginning. -/
def commonStart : List Char → List Char → Nat
  | a :: s, b :: t => if a = b then commonStart s t + 1 else 0
  | _, _ => 0

/-- A common block: where it begins in either text, and its length. -/
structure Block where
  left : Nat
  right : Nat
  size : Nat

/-- The longest common block, the leftmost in the first text and then in the second. -/
def longestBlock (s t : List Char) : Block :=
  (List.range s.length).foldl
    (fun best i =>
      (List.range t.length).foldl
        (fun best j =>
          let n := commonStart (s.drop i) (t.drop j)
          if best.size < n then ⟨i, j, n⟩ else best) best)
    ⟨0, 0, 0⟩

/-- The number of characters in matching blocks, for texts of less than `fuel` characters. -/
def matching : Nat → List Char → List Char → Nat
  | 0, _, _ => 0
  | fuel + 1, s, t =>
    let b := longestBlock s t
    if b.size = 0 then 0
    else
      b.size + matching fuel (s.take b.left) (t.take b.right)
        + matching fuel (s.drop (b.left + b.size)) (t.drop (b.right + b.size))

/-- The number of characters in matching blocks. -/
def similarity (s t : String) : Nat := matching (s.length + 1) s.toList t.toList

/-- Whether three fifths of the characters of two texts are in matching blocks. -/
def isClose (s t : String) : Bool :=
  decide (3 * (s.length + t.length) ≤ 5 * (2 * similarity s t))

/-- Whether the first of two candidates is at least as like a word as the second; of two equally
alike, the one whose name comes later. -/
def atLeastAsClose (word a b : String) : Bool :=
  let x := similarity a word * (b.length + word.length)
  let y := similarity b word * (a.length + word.length)
  decide (y < x ∨ (y = x ∧ b ≤ a))

/-- The three candidates that are most like a word, of those that are close to it, in ascending
order. -/
def closeTo (word : String) (candidates : List String) : List String :=
  (((candidates.filter fun c => isClose c word).mergeSort (atLeastAsClose word)).take 3).mergeSort
    fun a b => decide (a ≤ b)

end Fingerprint.Text
