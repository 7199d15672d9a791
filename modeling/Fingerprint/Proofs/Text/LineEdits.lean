/-
A text with a change at one of its lines: more at its end
(`lines_appendToLine`), or a new line above it (`lines_insertLine`). The breaks
stay as they are, and so does every other line.
-/
import Fingerprint.Proofs.Text.LineBreaks

namespace Fingerprint.Text

variable {more line r s : List Char} {c : Char} {n : Nat}

/-- Whether a text is empty or begins with the end of a line. -/
def BeginsBreak (s : List Char) : Prop := ∀ c, s.head? = some c → isLineBreak c = true

theorem lines_line_append (hline : IsLine line) (hr : BeginsBreak r) (hne : line ++ r ≠ []) :
    lines (line ++ r) = line :: (lines r).tail := by
  induction line with
  | nil =>
    obtain ⟨c, r, rfl⟩ := List.exists_cons_of_ne_nil hne
    have hc : isLineBreak c = true := hr c rfl
    rw [List.nil_append, lines.eq_def]
    split
    next heq => cases heq
    next => rfl
    next heq =>
      cases heq
      rw [if_pos hc]
      rfl
  | cons c line ih =>
    obtain ⟨hc, hline⟩ := List.forall_mem_cons.1 hline
    have hreturn : c ≠ '\r' := by
      rintro rfl
      cases hc
    rw [List.cons_append, lines_cons fun h => absurd h hreturn, if_neg (by simp [hc])]
    by_cases hrest : line ++ r = []
    · obtain ⟨rfl, rfl⟩ := List.append_eq_nil_iff.1 hrest
      rfl
    · rw [ih hline hrest, consLine]

theorem isLine_takeWhile (s : List Char) : IsLine (s.takeWhile (!isLineBreak ·)) := fun _ hc => by
  simpa using List.mem_takeWhile_imp hc

theorem beginsBreak_dropWhile (s : List Char) : BeginsBreak (s.dropWhile (!isLineBreak ·)) :=
  fun _ hc => by simpa using eq_false_of_head?_dropWhile hc

/-- A text in which line number `n` goes on with `more` before its break. -/
def appendToLine (more : List Char) : Nat → List Char → List Char
  | 0, s => s.takeWhile (!isLineBreak ·) ++ (more ++ s.dropWhile (!isLineBreak ·))
  | _ + 1, [] => []
  | n + 1, '\r' :: '\n' :: s => '\r' :: '\n' :: appendToLine more n s
  | n + 1, c :: s => c :: appendToLine more (if isLineBreak c then n else n + 1) s

theorem lines_appendToLine_zero (hmore : IsLine more) (hne : s ≠ []) :
    lines (s.takeWhile (!isLineBreak ·) ++ (more ++ s.dropWhile (!isLineBreak ·))) =
      (lines s).modify 0 (· ++ more) := by
  have hsplit : s.takeWhile (!isLineBreak ·) ++ s.dropWhile (!isLineBreak ·) = s :=
    List.takeWhile_append_dropWhile
  have hline := isLine_takeWhile s
  have hbreak := beginsBreak_dropWhile s
  generalize s.takeWhile (!isLineBreak ·) = l at hsplit hline ⊢
  generalize s.dropWhile (!isLineBreak ·) = r at hsplit hbreak ⊢
  subst hsplit
  have hlonger : IsLine (l ++ more) := List.forall_mem_append.2 ⟨hline, hmore⟩
  have hstill : (l ++ more) ++ r ≠ [] := by
    intro h
    simp only [List.append_eq_nil_iff] at h
    exact hne (List.append_eq_nil_iff.2 ⟨h.1.1, h.2⟩)
  rw [← List.append_assoc, lines_line_append hlonger hbreak hstill,
    lines_line_append hline hbreak hne]
  rfl

/-- A line feed comes to stand in front, where it might belong to a carriage return, only if it
stood there. -/
theorem head?_appendToLine (hmore : IsLine more) (h : (appendToLine more n s).head? = some '\n') :
    s.head? = some '\n' := by
  have hfeed : more.head? ≠ some '\n' := fun hm =>
    absurd (hmore _ (List.mem_of_head? hm)) (by decide)
  fun_cases appendToLine more n s with
  | case1 =>
    cases s with
    | nil => exact absurd (by simpa [appendToLine] using h) hfeed
    | cons d s =>
      by_cases hd : isLineBreak d = true
      · cases more with
        | nil => simpa [appendToLine, hd] using h
        | cons e more => exact absurd (by simpa [appendToLine, hd] using h) hfeed
      · simpa [appendToLine, hd] using h
  | case2 => exact h
  | case3 => exact h
  | case4 => simpa [appendToLine] using h

theorem lines_appendToLine (hmore : IsLine more) (hn : n < (lines s).length) :
    lines (appendToLine more n s) = (lines s).modify n (· ++ more) := by
  fun_induction appendToLine more n s with
  | case1 s =>
    have hne : s ≠ [] := by
      rintro rfl
      cases hn
    exact lines_appendToLine_zero hmore hne
  | case2 => cases hn
  | case3 n s ih =>
    have hrest : n < (lines s).length := Nat.lt_of_succ_lt_succ hn
    rw [lines, ih hrest, lines]
    rfl
  | case4 n c s hpair ih =>
    have hsingle : c = '\r' → s.head? ≠ some '\n' := by
      rintro rfl hs
      obtain ⟨_, rfl⟩ := List.head?_eq_some_iff.1 hs
      exact hpair _ rfl rfl
    rw [lines_cons fun hc hfeed => hsingle hc (head?_appendToLine hmore hfeed), lines_cons hsingle]
    rw [lines_cons hsingle] at hn
    by_cases hbreak : isLineBreak c = true
    · simp only [hbreak, if_true, List.length_cons, Nat.succ_lt_succ_iff] at hn ih ⊢
      rw [ih hn]
      rfl
    · simp only [hbreak, Bool.false_eq_true, if_false] at hn ih ⊢
      cases hls : lines s with
      | nil =>
        rw [hls, consLine] at hn
        simp at hn
      | cons l ls =>
        rw [hls, consLine] at hn
        rw [ih (by simpa [hls] using hn), hls]
        rfl

/-- A text with a new line above line number `n`, or below the last one. -/
def insertLine (line : List Char) : Nat → List Char → List Char
  | 0, s => line ++ '\n' :: s
  | _ + 1, [] => '\n' :: line
  | n + 1, '\r' :: '\n' :: s => '\r' :: '\n' :: insertLine line n s
  | n + 1, c :: s => c :: insertLine line (if isLineBreak c then n else n + 1) s

theorem head?_insertLine (hline : IsLine line) (hne : line ≠ []) (hn : n ≤ (lines s).length)
    (h : (insertLine line n s).head? = some '\n') : s.head? = some '\n' := by
  fun_cases insertLine line n s with
  | case1 =>
    rw [insertLine, List.head?_append_of_ne_nil _ hne] at h
    exact absurd (hline _ (List.mem_of_head? h)) (by decide)
  | case2 => cases hn
  | case3 => exact h
  | case4 => simpa [insertLine] using h

theorem lines_insertLine (hline : IsLine line) (hne : line ≠ []) (hn : n ≤ (lines s).length) :
    lines (insertLine line n s) = (lines s).take n ++ line :: (lines s).drop n := by
  fun_induction insertLine line n s with
  | case1 s => exact lines_append hline s
  | case2 => cases hn
  | case3 n s ih =>
    have hrest : n ≤ (lines s).length := Nat.le_of_succ_le_succ hn
    rw [lines, ih hrest, lines]
    rfl
  | case4 n c s hpair ih =>
    have hsingle : c = '\r' → s.head? ≠ some '\n' := by
      rintro rfl hs
      obtain ⟨_, rfl⟩ := List.head?_eq_some_iff.1 hs
      exact hpair _ rfl rfl
    rw [lines_cons hsingle] at hn ⊢
    by_cases hbreak : isLineBreak c = true
    · simp only [hbreak, if_true, List.length_cons, Nat.succ_le_succ_iff] at hn ih ⊢
      rw [lines_cons fun hc hfeed => hsingle hc (head?_insertLine hline hne hn hfeed), if_pos hbreak,
        ih hn]
      rfl
    · have hreturn : c ≠ '\r' := by
        rintro rfl
        exact hbreak rfl
      simp only [hbreak, Bool.false_eq_true, if_false] at hn ih ⊢
      rw [lines_cons fun hc => absurd hc hreturn, if_neg hbreak]
      cases hls : lines s with
      | nil =>
        -- The new line comes below a last line that no break ends.
        have hs : s = [] := by
          by_contra hs
          exact lines_ne_nil hs hls
        have hzero : n = 0 := by
          rw [hls, consLine, List.length_singleton] at hn
          omega
        have hend : BeginsBreak [] := by simp [BeginsBreak]
        have hlast := lines_line_append hline hend (by simpa using hne)
        have hfeed : lines ('\n' :: line) = [] :: lines line := rfl
        rw [List.append_nil] at hlast
        subst hs hzero
        rw [insertLine, hfeed, hlast]
        rfl
      | cons l ls =>
        rw [hls, consLine] at hn
        rw [ih (by simpa [hls] using hn), hls]
        rfl

/-- A text with a comment at the end of line number `n`, apart from what stands there. -/
def commentLine (mark comment : String) (n : Nat) (text : String) : String :=
  String.ofList (appendToLine (' ' :: (mark.toList ++ ' ' :: comment.toList)) n text.toList)

/-- A text with a line that is new above line number `n`, or below the last one. -/
def addLine (line : String) (n : Nat) (text : String) : String :=
  String.ofList (insertLine line.toList n text.toList)

variable {above below : List (List Char)} {l : List Char} {text mark comment added : String}

/-- **A comment changes the line that it stands on**, and no other. -/
theorem lines_commentLine (h : lines text.toList = above ++ l :: below)
    (hmark : IsLine mark.toList) (hcomment : IsLine comment.toList) :
    lines (commentLine mark comment above.length text).toList =
      above ++ (l ++ ' ' :: (mark.toList ++ ' ' :: comment.toList)) :: below := by
  have hmore : IsLine (' ' :: (mark.toList ++ ' ' :: comment.toList)) :=
    List.forall_mem_cons.2 ⟨by decide, List.forall_mem_append.2
      ⟨hmark, List.forall_mem_cons.2 ⟨by decide, hcomment⟩⟩⟩
  have hn : above.length < (lines text.toList).length := by simp [h]
  rw [commentLine, String.toList_ofList, lines_appendToLine hmore hn, h]
  simp [List.modify_eq_take_cons_drop]

theorem lines_addLine (h : lines text.toList = above ++ below) (hline : IsLine added.toList)
    (hne : added.toList ≠ []) :
    lines (addLine added above.length text).toList = above ++ added.toList :: below := by
  have hn : above.length ≤ (lines text.toList).length := by simp [h]
  rw [addLine, String.toList_ofList, lines_insertLine hline hne hn, h,
    List.take_left, List.drop_left]

end Fingerprint.Text
