/-
What trimming takes away. A text is what is trimmed of it with blanks around
(`exists_blanks_trim`), so more blanks at its end change nothing
(`trim_append_blanks`), and behind a character that stays only what follows is
trimmed or stripped.
-/
import Fingerprint.Proofs.Text.Pieces

namespace Fingerprint.Text

variable {d s w : List Char} {c : Char} {p : Char → Bool}

/-- The blanks at the end of a text. -/
def blanksBehind (s : List Char) : List Char := (s.reverse.takeWhile isBlank).reverse

theorem isBlankRun_blanksBehind (s : List Char) : IsBlankRun (blanksBehind s) := fun _ hc =>
  List.mem_takeWhile_imp (List.mem_reverse.1 hc)

theorem trimEnd_append_blanksBehind (s : List Char) : trimEnd s ++ blanksBehind s = s := by
  rw [trimEnd, blanksBehind, ← List.reverse_append, List.takeWhile_append_dropWhile,
    List.reverse_reverse]

theorem blanksBehind_append (hlast : ∀ c, w.getLast? = some c → isBlank c = false)
    (hd : IsBlankRun d) : blanksBehind (w ++ d) = d := by
  have hblank : ∀ c ∈ d.reverse, isBlank c = true := fun c hc => hd c (List.mem_reverse.1 hc)
  have hstop : w.reverse.takeWhile isBlank = [] := by
    cases hw : w.reverse with
    | nil => rfl
    | cons c rest =>
      have hc : isBlank c = false := hlast c (by rw [← List.head?_reverse, hw]; rfl)
      simp [hc]
  rw [blanksBehind, List.reverse_append, List.takeWhile_append_of_pos hblank, hstop,
    List.append_nil, List.reverse_reverse]

theorem isTight_trim (s : List Char) : IsTight (trim s) where
  first _ hc := isBlank_of_head?_trim hc
  last _ hc := isBlank_of_getLast?_trim hc

/-- **A text is what is trimmed of it, with blanks around.** -/
theorem exists_blanks_trim (s : List Char) :
    ∃ a d, IsBlankRun a ∧ IsBlankRun d ∧ s = a ++ trim s ++ d := by
  have hstart : s.takeWhile isBlank ++ trimStart s = s := List.takeWhile_append_dropWhile
  have hend : trim s ++ blanksBehind (trimStart s) = trimStart s :=
    trimEnd_append_blanksBehind (trimStart s)
  refine ⟨s.takeWhile isBlank, blanksBehind (trimStart s), fun c hc => List.mem_takeWhile_imp hc,
    isBlankRun_blanksBehind _, ?_⟩
  rw [List.append_assoc, hend, hstart]

theorem trim_append_blanks (hd : IsBlankRun d) (s : List Char) : trim (s ++ d) = trim s := by
  obtain ⟨a, e, ha, he, hs⟩ := exists_blanks_trim s
  have hblanks : IsBlankRun (e ++ d) := List.forall_mem_append.2 ⟨he, hd⟩
  have hpadded := trim_padded ha (isTight_trim s) hblanks
  rwa [← List.append_assoc, ← hs] at hpadded

theorem trim_trimEnd (s : List Char) : trim (trimEnd s) = trim s := by
  have happend := trim_append_blanks (isBlankRun_blanksBehind s) (trimEnd s)
  rw [trimEnd_append_blanksBehind] at happend
  exact happend.symm

theorem trimEnd_append_cons (hc : isBlank c = false) (x u : List Char) :
    trimEnd (x ++ c :: u) = x ++ c :: trimEnd u := by
  have hend := trimEnd_append (w := x ++ [c]) (by simp) (by simpa using hc) u
  simpa using hend

theorem exists_strip_append (hc : p c = false) (x u : List Char) :
    ∃ u', strip p (x ++ c :: u) = x.dropWhile p ++ c :: u' := by
  refine ⟨(u.reverse.dropWhile p).reverse, ?_⟩
  have hfirst : (x ++ c :: u).dropWhile p = x.dropWhile p ++ c :: u := by
    rw [List.dropWhile_append]
    split
    next hempty => simp [List.isEmpty_iff.1 hempty, hc]
    next => rfl
  rw [strip, hfirst, List.reverse_append, List.reverse_cons, List.append_assoc,
    List.dropWhile_append]
  split
  next hempty => simp [List.isEmpty_iff.1 hempty, hc]
  next => simp

end Fingerprint.Text
