/-
Splitting a text at a separator and joining pieces with one. A text without
the separator is one piece, and a separator at an end leaves an empty piece.
-/
namespace Fingerprint.Text

/-- Puts a character at the front of the first piece. -/
def consPiece (c : Char) : List (List Char) → List (List Char)
  | [] => [[c]]
  | p :: ps => (c :: p) :: ps

/-- The pieces between the characters that `p` accepts. -/
def splitWhere (p : Char → Bool) : List Char → List (List Char)
  | [] => [[]]
  | c :: rest => if p c then [] :: splitWhere p rest else consPiece c (splitWhere p rest)

/-- The pieces between separators. -/
def splitOn (sep : Char) (s : List Char) : List (List Char) := splitWhere (· == sep) s

/-- The pieces with a separator between each two. -/
def join (sep : List Char) : List (List Char) → List Char
  | [] => []
  | [p] => p
  | p :: ps => p ++ sep ++ join sep ps

/-- The texts with a separator between each two. -/
def joinStrings (sep : String) (ss : List String) : String :=
  String.ofList (join sep.toList (ss.map String.toList))

theorem splitWhere_ne_nil (p : Char → Bool) (s : List Char) : splitWhere p s ≠ [] := by
  cases s with
  | nil => simp [splitWhere]
  | cons c s =>
    by_cases h : p c = true
    · simp [splitWhere, h]
    · cases hs : splitWhere p s <;> simp [splitWhere, h, hs, consPiece]

theorem join_splitOn (sep : Char) (s : List Char) : join [sep] (splitOn sep s) = s := by
  unfold splitOn
  induction s with
  | nil => rfl
  | cons c s ih =>
    unfold splitWhere
    cases hs : splitWhere (· == sep) s with
    | nil => exact absurd hs (splitWhere_ne_nil _ s)
    | cons p ps =>
      rw [hs] at ih
      by_cases h : (c == sep) = true
      · rw [if_pos h, eq_of_beq h]
        simp only [join, List.nil_append, List.singleton_append, ih]
      · rw [if_neg h]
        cases ps with
        | nil => simpa [consPiece, join] using ih
        | cons q qs => simpa [consPiece, join] using ih

end Fingerprint.Text
