/-
Texts put together from pieces. The blanks around a text are trimmed away and
those within it stay (`trim_padded`), a word ends where a blank follows
(`words_append`), and a text is split at a separator into what stands before
it and the pieces after it (`splitWhere_append`). Lines without line breaks
are the lines of the text that ends each of them (`lines_endLines`).
-/
import Fingerprint.Proofs.Text.Normal
import Fingerprint.Text.Lines
import Fingerprint.Text.Split

namespace Fingerprint.Text

/-- Whether a text is white space and nothing else. -/
def IsBlankRun (s : List Char) : Prop := ∀ c ∈ s, isBlank c = true

/-- Whether a text has no white space at its ends. -/
structure IsTight (s : List Char) : Prop where
  first : ∀ c, s.head? = some c → isBlank c = false
  last : ∀ c, s.getLast? = some c → isBlank c = false

/-- Whether a text is a word: not empty, and without white space. -/
structure IsWord (w : List Char) : Prop where
  ne_nil : w ≠ []
  solid : ∀ c ∈ w, isBlank c = false

/-- Whether a text is empty or begins with white space. -/
def BeginsBlank (s : List Char) : Prop := ∀ c, s.head? = some c → isBlank c = true

/-- Whether a text stands on one line. -/
def IsLine (s : List Char) : Prop := ∀ c ∈ s, isLineBreak c = false

-- The characters of a text are gone through one by one, not all characters that there are.
instance : DecidablePred IsBlankRun := fun s => List.decidableBAll _ s

instance : DecidablePred IsLine := fun s => List.decidableBAll _ s

instance : DecidablePred BeginsBlank := fun s => Option.decidableForallMem s.head?

instance : DecidablePred IsTight := fun s =>
  have : Decidable (∀ c ∈ s.head?, isBlank c = false) := Option.decidableForallMem _
  have : Decidable (∀ c ∈ s.getLast?, isBlank c = false) := Option.decidableForallMem _
  decidable_of_iff ((∀ c ∈ s.head?, isBlank c = false) ∧ ∀ c ∈ s.getLast?, isBlank c = false)
    ⟨fun h => ⟨h.1, h.2⟩, fun h => ⟨h.first, h.last⟩⟩

instance : DecidablePred IsWord := fun w =>
  have : Decidable (∀ c ∈ w, isBlank c = false) := List.decidableBAll _ w
  decidable_of_iff (w ≠ [] ∧ ∀ c ∈ w, isBlank c = false)
    ⟨fun h => ⟨h.1, h.2⟩, fun h => ⟨h.ne_nil, h.solid⟩⟩

variable {a b r s w x y : List Char} {c : Char} {p : Char → Bool}

theorem IsWord.tight (h : IsWord w) : IsTight w where
  first _ hc := h.solid _ (List.mem_of_head? hc)
  last _ hc := h.solid _ (List.mem_of_getLast? hc)

theorem IsTight.append (hfirst : IsTight x) (hx : x ≠ []) (hlast : IsTight y) (hy : y ≠ [])
    (s : List Char) : IsTight (x ++ s ++ y) where
  first c hc := by
    rw [List.append_assoc, List.head?_append_of_ne_nil _ hx] at hc
    exact hfirst.first c hc
  last c hc := by
    rw [List.getLast?_append_of_ne_nil _ hy] at hc
    exact hlast.last c hc

theorem IsBlankRun.beginsBlank (h : IsBlankRun a) (hne : a ≠ []) (s : List Char) :
    BeginsBlank (a ++ s) := by
  intro c hc
  rw [List.head?_append_of_ne_nil _ hne] at hc
  exact h c (List.mem_of_head? hc)

theorem trimEnd_of_isBlankRun (h : IsBlankRun s) : trimEnd s = [] := by
  have hdrop : s.reverse.dropWhile isBlank = [] :=
    List.dropWhile_eq_nil_iff.2 fun c hc => h c (List.mem_reverse.1 hc)
  rw [trimEnd, hdrop, List.reverse_nil]

theorem trim_of_isBlankRun (h : IsBlankRun s) : trim s = [] := by
  have hdrop : trimStart s = [] := List.dropWhile_eq_nil_iff.2 h
  rw [trim, hdrop]
  rfl

/-- **What is left behind the blanks at the start** of a text, where something is. -/
theorem trimStart_eq_cons_iff :
    trimStart s = c :: r ↔ isBlank c = false ∧ ∃ a, IsBlankRun a ∧ s = a ++ c :: r :=
  dropWhile_eq_cons_iff

theorem trim_blanks_append (ha : IsBlankRun a) (s : List Char) : trim (a ++ s) = trim s := by
  rw [trim, trimStart, List.dropWhile_append_of_pos ha]
  rfl

/-- Only what follows the last character that is not blank is trimmed. -/
theorem trimEnd_append (hw : w ≠ []) (hlast : ∀ c, w.getLast? = some c → isBlank c = false)
    (r : List Char) : trimEnd (w ++ r) = w ++ trimEnd r := by
  have hstay : w.reverse.dropWhile isBlank = w.reverse := by
    obtain ⟨front, c, rfl⟩ := List.eq_nil_or_concat w |>.resolve_left hw
    have hc : isBlank c = false := hlast c (by simp)
    simp [hc]
  rw [trimEnd, List.reverse_append, List.dropWhile_append, trimEnd]
  split
  next hempty =>
    rw [hstay, List.reverse_reverse, List.isEmpty_iff.1 hempty, List.reverse_nil, List.append_nil]
  next => rw [List.reverse_append, List.reverse_reverse]

theorem trim_append (hw : w ≠ []) (htight : IsTight w) (r : List Char) :
    trim (w ++ r) = w ++ trimEnd r := by
  have hstart : trimStart (w ++ r) = w ++ r := by
    obtain ⟨c, rest, rfl⟩ := List.exists_cons_of_ne_nil hw
    have hc : isBlank c = false := htight.first c rfl
    simp [trimStart, hc]
  rw [trim, hstart, trimEnd_append hw htight.last]

theorem trim_cons (hc : isBlank c = false) (s : List Char) : trim (c :: s) = c :: trimEnd s := by
  have hword : IsWord [c] := ⟨List.cons_ne_nil _ _, List.forall_mem_singleton.2 hc⟩
  exact trim_append hword.ne_nil hword.tight s

/-- **The blanks around a text are trimmed away**, and nothing else. -/
theorem trim_padded (ha : IsBlankRun a) (hs : IsTight s) (hb : IsBlankRun b) :
    trim (a ++ s ++ b) = s := by
  rw [List.append_assoc, trim_blanks_append ha]
  cases s with
  | nil => exact trim_of_isBlankRun hb
  | cons c rest =>
    rw [trim_append (List.cons_ne_nil _ _) hs, trimEnd_of_isBlankRun hb, List.append_nil]

theorem BeginsBlank.trimEnd (h : BeginsBlank s) : BeginsBlank (trimEnd s) := by
  intro c hc
  refine h c ?_
  obtain ⟨rest, hrest⟩ := trimEnd_isPrefix s
  cases ht : Text.trimEnd s with
  | nil =>
    rw [ht] at hc
    cases hc
  | cons d tail =>
    rw [ht] at hc hrest
    rw [← hrest]
    exact hc

theorem words_cons_of_isBlank (hc : isBlank c = true) (s : List Char) :
    words (c :: s) = words s := by
  cases s with
  | nil => simp [words, hc]
  | cons d s => simp [words, hc]

theorem words_blanks_append (ha : IsBlankRun a) (s : List Char) : words (a ++ s) = words s := by
  induction a with
  | nil => rfl
  | cons c a ih =>
    obtain ⟨hc, ha⟩ := List.forall_mem_cons.1 ha
    rw [List.cons_append, words_cons_of_isBlank hc, ih ha]

/-- **A word ends where a blank follows.** -/
theorem words_append (hw : IsWord w) (hr : BeginsBlank r) : words (w ++ r) = w :: words r := by
  obtain ⟨hne, hsolid⟩ := hw
  induction w with
  | nil => exact absurd rfl hne
  | cons c w ih =>
    obtain ⟨hc, hsolid⟩ := List.forall_mem_cons.1 hsolid
    cases w with
    | nil =>
      cases r with
      | nil => simp [words, hc]
      | cons d r => simp [words, hc, hr d rfl]
    | cons d w =>
      have hd : isBlank d = false := hsolid d (by simp)
      have hrest := ih (List.cons_ne_nil _ _) hsolid
      rw [List.cons_append] at hrest
      simp [words, hc, hd, hrest, consWord]

/-- A text without white space that is found where a word stands is found within the word. -/
theorem isPrefix_of_isPrefix_append (hs : ∀ c ∈ s, isBlank c = false) (hr : BeginsBlank r)
    (h : s <+: w ++ r) : s <+: w := by
  rcases List.prefix_or_prefix_of_prefix h (List.prefix_append w r) with hsw | ⟨t, rfl⟩
  · exact hsw
  · obtain ⟨u, hu⟩ := h
    rw [List.append_assoc, List.append_cancel_left_eq] at hu
    cases t with
    | nil => simp
    | cons c t =>
      have hblank : isBlank c = true := hr c (by rw [← hu]; rfl)
      rw [hs c (by simp)] at hblank
      cases hblank

theorem splitWhere_eq_splitOnP (p : Char → Bool) (s : List Char) :
    splitWhere p s = s.splitOnP p := by
  induction s with
  | nil => simp [splitWhere]
  | cons c s ih =>
    obtain ⟨q, qs, hs⟩ := List.exists_cons_of_ne_nil (splitWhere_ne_nil p s)
    rw [List.splitOnP_cons_eq_if_modifyHead, ← ih, splitWhere, hs]
    rfl

theorem splitWhere_of_forall (h : ∀ c ∈ s, p c = false) : splitWhere p s = [s] := by
  rw [splitWhere_eq_splitOnP, List.splitOnP_eq_singleton h]

/-- **A text is split at its first separator** into what stands before it and the pieces after. -/
theorem splitWhere_append (hs : ∀ c ∈ s, p c = false) (hc : p c = true) (r : List Char) :
    splitWhere p (s ++ c :: r) = s :: splitWhere p r := by
  rw [splitWhere_eq_splitOnP, List.splitOnP_append_cons_of_forall_mem hs c hc,
    splitWhere_eq_splitOnP]

/-- A piece is made of characters of the text, none of them a separator. -/
theorem mem_of_mem_splitWhere :
    ∀ q ∈ splitWhere p s, ∀ c ∈ q, c ∈ s ∧ p c = false := by
  induction s with
  | nil => simp [splitWhere]
  | cons d s ih =>
    intro q hq c hc
    rw [splitWhere] at hq
    split at hq
    next hd =>
      rcases List.mem_cons.1 hq with rfl | hq
      · cases hc
      · exact (ih q hq c hc).imp_left (List.mem_cons_of_mem d)
    next hd =>
      obtain ⟨r, rs, hs⟩ := List.exists_cons_of_ne_nil (splitWhere_ne_nil p s)
      rw [hs] at hq ih
      rcases List.mem_cons.1 hq with rfl | hq
      · rcases List.mem_cons.1 hc with rfl | hc
        · exact ⟨List.mem_cons_self, by simpa using hd⟩
        · exact (ih r List.mem_cons_self c hc).imp_left (List.mem_cons_of_mem d)
      · exact (ih q (List.mem_cons_of_mem r hq) c hc).imp_left (List.mem_cons_of_mem d)

theorem splitOn_append (sep : Char) (a b : List Char) :
    splitOn sep (a ++ sep :: b) = splitOn sep a ++ splitOn sep b := by
  simp only [splitOn, splitWhere_eq_splitOnP]
  exact List.splitOnP_append_cons a b (beq_self_eq_true sep)

/-- Lines with a line feed at the end of each. -/
def endLines (ls : List (List Char)) : List Char := ls.flatMap (· ++ ['\n'])

/-- A character is the first of a line or ends one, unless it begins a break of two characters. -/
theorem lines_cons (h : c = '\r' → s.head? ≠ some '\n') :
    lines (c :: s) = if isLineBreak c then [] :: lines s else consLine c (lines s) := by
  rw [lines.eq_def]
  split
  next heq => cases heq
  next heq =>
    cases heq
    exact absurd rfl (h rfl)
  next heq =>
    cases heq
    rfl

theorem lines_append (hs : IsLine s) (r : List Char) : lines (s ++ '\n' :: r) = s :: lines r := by
  induction s with
  | nil => rfl
  | cons c s ih =>
    obtain ⟨hc, hs⟩ := List.forall_mem_cons.1 hs
    have hreturn : c ≠ '\r' := by
      rintro rfl
      cases hc
    rw [List.cons_append, lines_cons fun h => absurd h hreturn, if_neg (by simp [hc]), ih hs,
      consLine]

/-- **Lines are those of the text that ends each of them.** -/
theorem lines_endLines {ls : List (List Char)} (h : ∀ l ∈ ls, IsLine l) :
    lines (endLines ls) = ls := by
  induction ls with
  | nil => rfl
  | cons l ls ih =>
    obtain ⟨hl, hls⟩ := List.forall_mem_cons.1 h
    have hfirst : endLines (l :: ls) = l ++ '\n' :: endLines ls := by simp [endLines]
    rw [hfirst, lines_append hl, ih hls]

theorem strip_of_forall (h : ∀ c ∈ s, p c = false) : strip p s = s := by
  have hdrop : ∀ u : List Char, (∀ c ∈ u, p c = false) → u.dropWhile p = u := fun u hu =>
    dropWhile_eq_self fun c hc => hu c (List.mem_of_head? hc)
  rw [strip, hdrop s h, hdrop _ fun c hc => h c (List.mem_reverse.1 hc), List.reverse_reverse]

theorem strip_enclosed (hc : p c = true) (h : ∀ d ∈ s, p d = false) :
    strip p (c :: (s ++ [c])) = s := by
  have hfirst : strip p (c :: (s ++ [c])) = strip p (s ++ [c]) := by simp [strip, hc]
  have hlast : strip p (s ++ [c]) = strip p s := by
    cases s with
    | nil => simp [strip, hc]
    | cons d s =>
      have hd : p d = false := h d (by simp)
      simp [strip, hc, hd]
  rw [hfirst, hlast, strip_of_forall h]

end Fingerprint.Text
