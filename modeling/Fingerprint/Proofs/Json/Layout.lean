/-
The layout of an object over several lines. Its members stand in the text in
the order in which it has them, each on a line of its own, with a comma between
each two (`printIndented_object`).
-/
import Fingerprint.Json.Printer
import Fingerprint.Text.Split

namespace Fingerprint.Json

open Text

/-- A member on a line of its own, its value already as text. -/
def memberLine (level : Nat) (m : String × List Char) : List Char :=
  newLine (level + 1) ++ stringText m.1 ++ [':', ' '] ++ m.2

/-- An object at a level of nesting, the values of its members already as text. -/
def objectText (level : Nat) (ms : List (String × List Char)) : List Char :=
  if ms.isEmpty then ['\x7b', '\x7d']
  else '\x7b' :: (join [','] (ms.map (memberLine level)) ++ newLine level ++ ['\x7d'])

theorem printIndentedMembers_eq (level : Nat) (m : List Char) (ms : List (String × Value)) :
    m ++ printIndentedMembers level ms =
      join [','] (m :: ms.map fun m => memberLine level (m.1, printIndented (level + 1) m.2)) ++
        newLine level ++ ['\x7d'] := by
  induction ms generalizing m with
  | nil => simp [printIndentedMembers, join]
  | cons x ms ih =>
    obtain ⟨name, v⟩ := x
    have hstep := ih (memberLine level (name, printIndented (level + 1) v))
    rw [List.map_cons, join, List.append_assoc, List.append_assoc, List.append_assoc]
    · rw [← List.append_assoc (join _ _), ← hstep]
      simp [printIndentedMembers, memberLine]
    · exact List.cons_ne_nil _ _

/-- **The members of an object stand in its text in their order.** -/
theorem printIndented_object (level : Nat) (ms : List (String × Value)) :
    printIndented level (.object ms) =
      objectText level (ms.map fun m => (m.1, printIndented (level + 1) m.2)) := by
  cases ms with
  | nil => simp [printIndented, objectText]
  | cons m ms =>
    obtain ⟨name, v⟩ := m
    rw [objectText, List.map_cons, if_neg (by simp), List.map_cons, List.map_map]
    have hmembers := printIndentedMembers_eq level
      (memberLine level (name, printIndented (level + 1) v)) ms
    simp only [printIndented, memberLine] at hmembers ⊢
    rw [hmembers]
    rfl

end Fingerprint.Json
