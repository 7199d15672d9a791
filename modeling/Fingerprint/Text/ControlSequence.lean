/-
Control sequences of a terminal: an escape character and an opening bracket,
then parameter characters, intermediate characters and one final character. A
text that is not shown on a terminal is written without them; what only begins
like a control sequence stays. A text without the escape character is not
changed.
-/
namespace Fingerprint.Text

/-- The characters of the parameters of a control sequence. -/
def isParameter (c : Char) : Bool := decide ('0' ≤ c ∧ c ≤ '?')

/-- The characters between the parameters and the final character. -/
def isIntermediate (c : Char) : Bool := decide (' ' ≤ c ∧ c ≤ '/')

/-- The characters that end a control sequence. -/
def isFinal (c : Char) : Bool := decide ('@' ≤ c ∧ c ≤ '~')

/-- What follows the control sequence that a text begins with, if it begins with one. -/
def afterSequence? : List Char → Option (List Char)
  | '\x1b' :: '[' :: rest =>
    match (rest.dropWhile isParameter).dropWhile isIntermediate with
    | [] => none
    | c :: more => if isFinal c then some more else none
  | _ => none

/-- The length of the control sequence that a text begins with; zero if it begins with none. -/
def sequenceLength (s : List Char) : Nat :=
  match afterSequence? s with
  | some rest => s.length - rest.length
  | none => 0

/-- The text after its first `skip` characters, without control sequences. -/
def stripAfter : Nat → List Char → List Char
  | _, [] => []
  | skip + 1, _ :: rest => stripAfter skip rest
  | 0, c :: rest =>
    match sequenceLength (c :: rest) with
    | 0 => c :: stripAfter 0 rest
    | n + 1 => stripAfter n rest

/-- The text without control sequences. -/
def stripSequences (s : String) : String := String.ofList (stripAfter 0 s.toList)

theorem sequenceLength_of_ne {c : Char} (h : c ≠ '\x1b') (s : List Char) :
    sequenceLength (c :: s) = 0 := by
  unfold sequenceLength afterSequence?
  split
  · next heq =>
    split at heq
    · next hc => exact absurd (List.cons.inj hc).1 h
    · simp at heq
  · rfl

theorem stripAfter_zero_of_not_mem {s : List Char} (h : '\x1b' ∉ s) : stripAfter 0 s = s := by
  induction s with
  | nil => rfl
  | cons c s ih =>
    have hc : c ≠ '\x1b' := fun hc => h (hc ▸ List.mem_cons_self)
    rw [stripAfter, sequenceLength_of_ne hc]
    exact congrArg (c :: ·) (ih fun hs => h (List.mem_cons_of_mem c hs))

end Fingerprint.Text
