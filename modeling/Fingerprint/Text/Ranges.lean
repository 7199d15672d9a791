/-
Sets and maps of characters given by runs of code points. A set is a list of
closed ranges; a map is a list of runs, each of which shifts every `step`-th
code point between its ends by one amount.
-/
namespace Fingerprint.Text

/-- Whether a code point lies in one of the closed ranges. -/
def inRanges (ranges : List (Nat × Nat)) (c : Char) : Bool :=
  ranges.any fun r => decide (r.1 ≤ c.toNat) && decide (c.toNat ≤ r.2)

/-- A run of code points, `step` apart from `first` to `last`, all moved by `shift`. -/
structure ShiftRun where
  first : Nat
  last : Nat
  step : Nat
  shift : Int

/-- The image of a character under a list of runs; a character in no run stays itself. -/
def shiftChar (runs : List ShiftRun) (c : Char) : Char :=
  match runs.find? fun r =>
      decide (r.first ≤ c.toNat) && decide (c.toNat ≤ r.last)
        && decide ((c.toNat - r.first) % r.step = 0) with
  | some r => Char.ofNat (Int.toNat (c.toNat + r.shift))
  | none => c

end Fingerprint.Text
