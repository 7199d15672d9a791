/-
Capital and small letters of a whole text, for every script. A character may
become several (`ß` becomes `SS`), and a capital sigma becomes the final form
`ς` where it ends a word: some cased letter stands before it and none after
it, characters that case passes over left aside.
-/
import Fingerprint.Text.CaseTable

namespace Fingerprint.Text

/-- The capital form of one character. -/
def upperChar (c : Char) : List Char :=
  match upperExpansions.lookup c.toNat with
  | some cs => cs.map Char.ofNat
  | none => [shiftChar upperRuns c]

/-- The text in capitals. -/
def upper (s : List Char) : List Char := s.flatMap upperChar

/-- Whether the first character that case does not pass over is a cased letter. -/
def casedNext (s : List Char) : Bool :=
  match s.dropWhile (inRanges caseIgnorableRanges) with
  | [] => false
  | c :: _ => inRanges casedRanges c

/-- The small form of one character that stands outside any word. -/
def lowerChar (c : Char) : List Char :=
  match lowerExpansions.lookup c.toNat with
  | some cs => cs.map Char.ofNat
  | none => [shiftChar lowerRuns c]

/-- The small form of a text, given what stands before it, nearest first. -/
def lowerAfter (before : List Char) : List Char → List Char
  | [] => []
  | c :: rest =>
    (if c = 'Σ' then [if casedNext before && !casedNext rest then 'ς' else 'σ'] else lowerChar c)
      ++ lowerAfter (c :: before) rest

/-- The text in small letters. -/
def lower (s : List Char) : List Char := lowerAfter [] s

end Fingerprint.Text
