/-
Lines where their breaks change. A line feed put between two texts parts their
lines, and at most one empty line is new (`lines_append_newline`). A text
without carriage returns has the same lines whether they end at line feeds, at
carriage returns or at the two together (`lines_withBreaks`).
-/
import Fingerprint.Proofs.Text.Pieces

namespace Fingerprint.Text

variable {br s : List Char} {c : Char}

theorem lines_ne_nil (h : s ≠ []) : lines s ≠ [] := by
  fun_cases lines s with
  | case1 => exact absurd rfl h
  | case2 => exact List.cons_ne_nil _ _
  | case3 => exact List.cons_ne_nil _ _
  | case4 c rest =>
    cases lines rest <;> exact List.cons_ne_nil _ _

theorem consLine_append {ls : List (List Char)} (h : ls ≠ []) (ms : List (List Char)) :
    consLine c (ls ++ ms) = consLine c ls ++ ms := by
  cases ls with
  | nil => exact absurd rfl h
  | cons l ls => rfl

/-- **A line feed between two texts parts their lines**: the lines of the one come before those of
the other, with no line between them or an empty one. -/
theorem lines_append_newline (a b : List Char) :
    ∃ gap, (gap = [] ∨ gap = [[]]) ∧ lines (a ++ '\n' :: b) = lines a ++ (gap ++ lines b) := by
  fun_induction lines a with
  | case1 => exact ⟨[[]], .inr rfl, rfl⟩
  | case2 rest ih =>
    obtain ⟨gap, hgap, hlines⟩ := ih
    exact ⟨gap, hgap, congrArg ([] :: ·) hlines⟩
  | case3 c rest hpair hbreak ih =>
    by_cases hreturn : c = '\r' ∧ rest = []
    · -- The line feed belongs to the carriage return before it.
      obtain ⟨rfl, rfl⟩ := hreturn
      exact ⟨[], .inl rfl, rfl⟩
    · obtain ⟨gap, hgap, hlines⟩ := ih
      have hsingle : c = '\r' → (rest ++ '\n' :: b).head? ≠ some '\n' := by
        intro hc
        cases rest with
        | nil => exact absurd ⟨hc, rfl⟩ hreturn
        | cons d rest =>
          intro hd
          cases hd
          exact hpair rest hc rfl
      refine ⟨gap, hgap, ?_⟩
      rw [List.cons_append, lines_cons hsingle, if_pos hbreak, hlines]
      rfl
  | case4 c rest hpair hbreak ih =>
    have hsingle : c = '\r' → (rest ++ '\n' :: b).head? ≠ some '\n' := by
      rintro rfl
      exact absurd rfl hbreak
    rw [List.cons_append, lines_cons hsingle, if_neg hbreak]
    by_cases hrest : rest = []
    · -- The line feed ends the line of this character.
      subst hrest
      exact ⟨[], .inl rfl, rfl⟩
    · obtain ⟨gap, hgap, hlines⟩ := ih
      exact ⟨gap, hgap, by rw [hlines, consLine_append (lines_ne_nil hrest)]⟩

/-- A text with another break in the place of each line feed. -/
def withBreaks (br s : List Char) : List Char := s.flatMap fun c => if c = '\n' then br else [c]

@[simp] theorem withBreaks_nil : withBreaks br [] = [] := rfl

@[simp] theorem withBreaks_newline : withBreaks br ('\n' :: s) = br ++ withBreaks br s := rfl

theorem withBreaks_cons (h : c ≠ '\n') : withBreaks br (c :: s) = c :: withBreaks br s := by
  rw [withBreaks, List.flatMap_cons, if_neg h]
  rfl

theorem withBreaks_append (s t : List Char) :
    withBreaks br (s ++ t) = withBreaks br s ++ withBreaks br t :=
  List.flatMap_append

/-- A text whose lines end with another break than the line feed. -/
def endLinesWith (br : List Char) (text : String) : String :=
  String.ofList (withBreaks br text.toList)

@[simp] theorem toList_endLinesWith (text : String) :
    (endLinesWith br text).toList = withBreaks br text.toList :=
  String.toList_ofList

/-- The breaks that end a line like a line feed: the one that is two characters, and its first. -/
def returnBreaks : List (List Char) := [['\r', '\n'], ['\r']]

theorem newline_not_mem_withBreaks (h : '\n' ∉ br) : '\n' ∉ withBreaks br s := by
  rw [withBreaks, List.mem_flatMap]
  rintro ⟨c, -, hc⟩
  split at hc
  next => exact h hc
  next hne => exact hne (List.mem_singleton.1 hc).symm

/-- **Lines do not depend on how they are ended**, where a carriage return can only end one. -/
theorem lines_withBreaks (hbr : br ∈ returnBreaks) (h : '\r' ∉ s) :
    lines (withBreaks br s) = lines s := by
  induction s with
  | nil => rfl
  | cons c s ih =>
    rw [List.mem_cons, not_or] at h
    by_cases hc : c = '\n'
    · subst hc
      have hfeed : lines ('\n' :: s) = [] :: lines s := rfl
      have hbreak : lines (withBreaks br ('\n' :: s)) = [] :: lines (withBreaks br s) := by
        rw [returnBreaks, List.mem_pair] at hbr
        rcases hbr with rfl | rfl
        · rfl
        · have hreturn : isLineBreak '\r' = true := rfl
          have hnone : '\n' ∉ withBreaks ['\r'] s := newline_not_mem_withBreaks (by decide)
          rw [withBreaks_newline, List.singleton_append,
            lines_cons fun _ hhead => hnone (List.mem_of_head? hhead), if_pos hreturn]
      rw [hbreak, hfeed, ih h.2]
    · rw [withBreaks_cons hc, lines_cons fun hr => absurd hr (Ne.symm h.1), ih h.2,
        lines_cons fun hr => absurd hr (Ne.symm h.1)]

end Fingerprint.Text
