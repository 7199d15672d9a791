/-
Text without outer blanks, in small letters. The small form of a character is
its own small form, since no run of capitals leads into another
(`lowerChar_of_mem_lowerChar`), and it is blank only where the character is.
So small letters stay as they are (`lower_lower`) and have no new blanks at
their ends (`trim_lower_trim`).
-/
import Mathlib.Data.List.Basic
import Mathlib.Data.List.TakeWhile
import Fingerprint.Text.Blank
import Fingerprint.Text.Case

namespace Fingerprint.Text

variable {c d : Char} {s : List Char}

section

variable {α : Type} {p : α → Bool} {b l r : List α} {a : α}

theorem takeWhile_append_stop (hb : ∀ x ∈ b, p x = true) (ha : p a = false) (r : List α) :
    (b ++ a :: r).takeWhile p = b := by
  rw [List.takeWhile_append_of_pos hb, List.takeWhile_cons_of_neg (by simp [ha]), List.append_nil]

theorem dropWhile_append_stop (hb : ∀ x ∈ b, p x = true) (ha : p a = false) (r : List α) :
    (b ++ a :: r).dropWhile p = a :: r := by
  rw [List.dropWhile_append_of_pos hb, List.dropWhile_cons_of_neg (by simp [ha])]

/-- **Dropping stops at the first element that is not to be dropped**, where there is one. -/
theorem dropWhile_eq_cons_iff :
    l.dropWhile p = a :: r ↔ p a = false ∧ ∃ b, (∀ x ∈ b, p x = true) ∧ l = b ++ a :: r := by
  constructor
  · intro h
    have hsplit : l.takeWhile p ++ l.dropWhile p = l := List.takeWhile_append_dropWhile
    have hhead := List.head?_dropWhile_not p l
    rw [h] at hsplit hhead
    exact ⟨hhead, _, fun _ hx => List.mem_takeWhile_imp hx, hsplit.symm⟩
  · rintro ⟨ha, b, hb, rfl⟩
    exact dropWhile_append_stop hb ha r

theorem eq_false_of_head?_dropWhile (h : (l.dropWhile p).head? = some a) : p a = false := by
  obtain ⟨r, hdrop⟩ := List.head?_eq_some_iff.1 h
  exact (dropWhile_eq_cons_iff.1 hdrop).1

theorem dropWhile_eq_self (h : ∀ a, l.head? = some a → p a = false) : l.dropWhile p = l := by
  cases l with
  | nil => rfl
  | cons a l => rw [List.dropWhile_cons_of_neg (by simp [h a rfl])]

theorem bne_of_not_mem (h : d ∉ s) : ∀ c ∈ s, (c != d) = true := fun _ hc =>
  bne_iff_ne.2 fun heq => h (heq ▸ hc)

end

theorem isBlank_of_head?_trimStart (h : (trimStart s).head? = some c) : isBlank c = false :=
  eq_false_of_head?_dropWhile h

theorem trimEnd_isPrefix (s : List Char) : trimEnd s <+: s := by
  rw [← List.reverse_suffix, trimEnd, List.reverse_reverse]
  exact List.dropWhile_suffix _

theorem isBlank_of_head?_trim (h : (trim s).head? = some c) : isBlank c = false := by
  obtain ⟨rest, hrest⟩ := trimEnd_isPrefix (trimStart s)
  refine isBlank_of_head?_trimStart (s := s) ?_
  rw [← hrest]
  rw [trim] at h
  cases ht : trimEnd (trimStart s) with
  | nil =>
    rw [ht] at h
    cases h
  | cons x xs =>
    rw [ht] at h
    exact h

theorem isBlank_of_getLast?_trim (h : (trim s).getLast? = some c) : isBlank c = false := by
  rw [trim, trimEnd, List.getLast?_reverse] at h
  exact isBlank_of_head?_trimStart (s := (trimStart s).reverse) h

theorem trim_eq_self (hfirst : ∀ c, s.head? = some c → isBlank c = false)
    (hlast : ∀ c, s.getLast? = some c → isBlank c = false) : trim s = s := by
  rw [trim, trimStart, dropWhile_eq_self hfirst, trimEnd,
    dropWhile_eq_self (l := s.reverse) (by simpa using hlast), List.reverse_reverse]

namespace ShiftRun

/-- Whether a run moves a code point. -/
def moves (r : ShiftRun) (n : Nat) : Bool :=
  decide (r.first ≤ n) && decide (n ≤ r.last) && decide ((n - r.first) % r.step = 0)

/-- The code point that a run leads to from its first one. -/
def firstImage (r : ShiftRun) : Nat := Int.toNat (r.first + r.shift)

/-- The code point that a run leads to from its last one. -/
def lastImage (r : ShiftRun) : Nat := Int.toNat (r.last + r.shift)

/-- Whether a run leads to code points on one side of others. -/
def avoids (r : ShiftRun) (first last : Nat) : Bool :=
  Nat.blt r.lastImage first || Nat.blt last r.firstImage

/-- Whether a run leads to no code point that another one moves: to those on one side of it, or
else to those that the other passes over. -/
def misses (r q : ShiftRun) : Bool :=
  r.avoids q.first q.last
    || ((r.step == 2 || r.first == r.last) && q.step == 2 && (q.first + r.firstImage) % 2 == 1)

theorem moves_iff {r : ShiftRun} {n : Nat} :
    r.moves n = true ↔ r.first ≤ n ∧ n ≤ r.last ∧ (n - r.first) % r.step = 0 := by
  simp [moves, and_assoc]

theorem not_between_of_avoids {r : ShiftRun} {n m first last : Nat}
    (h : r.avoids first last = true) (hn : r.moves n = true) (hm : (m : Int) = n + r.shift) :
    ¬ (first ≤ m ∧ m ≤ last) := by
  obtain ⟨hfirst, hlast, -⟩ := moves_iff.1 hn
  simp only [avoids, firstImage, lastImage, Bool.or_eq_true, Nat.blt_eq] at h
  omega

theorem moves_of_misses {r q : ShiftRun} {n m : Nat} (h : r.misses q = true)
    (hpos : 0 ≤ r.first + r.shift) (hn : r.moves n = true) (hm : (m : Int) = n + r.shift) :
    q.moves m = false := by
  rw [← Bool.not_eq_true, moves_iff]
  rintro ⟨hqfirst, hqlast, hqstep⟩
  simp only [misses, Bool.or_eq_true, Bool.and_eq_true, beq_iff_eq] at h
  rcases h with h | ⟨⟨hr, hq⟩, hodd⟩
  · exact not_between_of_avoids h hn hm ⟨hqfirst, hqlast⟩
  · obtain ⟨hfirst, hlast, hstep⟩ := moves_iff.1 hn
    rw [hq] at hqstep
    rw [firstImage] at hodd
    rcases hr with hr | hr
    · rw [hr] at hstep
      omega
    · omega

end ShiftRun

theorem shiftChar_of_not_moves {runs : List ShiftRun}
    (h : ∀ r ∈ runs, r.moves c.toNat = false) : shiftChar runs c = c := by
  have hnone : (runs.find? fun r => r.moves c.toNat) = none :=
    List.find?_eq_none.2 fun r hr => by simp [h r hr]
  unfold shiftChar
  split
  next r hr => cases hnone.symm.trans hr
  next => rfl

theorem shiftChar_cases (runs : List ShiftRun) (c : Char) :
    shiftChar runs c = c ∨ ∃ r ∈ runs, r.moves c.toNat = true ∧
      shiftChar runs c = Char.ofNat (Int.toNat (c.toNat + r.shift)) := by
  cases h : runs.find? fun r => r.moves c.toNat with
  | none =>
    refine .inl (shiftChar_of_not_moves fun r hr => ?_)
    simpa using List.find?_eq_none.1 h r hr
  | some r =>
    have hmoves : r.moves c.toNat = true := by
      simpa using List.find?_some h
    refine .inr ⟨r, List.mem_of_find?_eq_some h, hmoves, ?_⟩
    unfold shiftChar
    split
    next r' hr' =>
      cases h.symm.trans hr'
      rfl
    next hnone => cases h.symm.trans hnone

/-- The runs of capitals lead to code points that are characters. -/
theorem lowerRuns_valid : ∀ r ∈ lowerRuns, 0 ≤ r.first + r.shift ∧
    (r.last + r.shift < 0xD800 ∨ 0xDFFF < r.first + r.shift ∧ r.last + r.shift < 0x110000) := by
  decide +kernel

theorem lowerRuns_avoid_dotted : (lowerRuns.all fun r => r.avoids 0x130 0x130) = true := by
  decide +kernel

theorem lowerRuns_avoid_blanks :
    (lowerRuns.all fun r => blankRanges.all fun b => r.avoids b.1 b.2) = true := by
  decide +kernel

theorem lowerRuns_miss : (lowerRuns.all fun r => lowerRuns.all r.misses) = true := by
  decide +kernel

theorem lowerChar_of_ne (h : c.toNat ≠ 0x130) : lowerChar c = [shiftChar lowerRuns c] := by
  have hlookup : lowerExpansions.lookup c.toNat = none := by
    have hne : (c.toNat == 0x130) = false := by simpa using h
    simp [lowerExpansions, List.lookup_cons, hne]
  rw [lowerChar, hlookup]

/-- The small form of a character: two characters in one case, the character itself, or one to which
a run leads. -/
theorem lowerChar_cases (c : Char) :
    lowerChar c = ['i', '\u0307'] ∨ lowerChar c = [c] ∨
      ∃ r ∈ lowerRuns, r.moves c.toNat = true ∧
        lowerChar c = [Char.ofNat (Int.toNat (c.toNat + r.shift))] := by
  by_cases hdot : c.toNat = 0x130
  · have hc : c = '\u0130' := by rw [← Char.ofNat_toNat c, hdot]
    subst hc
    exact .inl rfl
  · rw [lowerChar_of_ne hdot]
    rcases shiftChar_cases lowerRuns c with hsame | ⟨r, hr, hmoves, himage⟩
    · exact .inr (.inl (by rw [hsame]))
    · exact .inr (.inr ⟨r, hr, hmoves, by rw [himage]⟩)

theorem toNat_image {r : ShiftRun} (hr : r ∈ lowerRuns) {n : Nat} (hn : r.moves n = true) :
    ((Char.ofNat (Int.toNat (n + r.shift))).toNat : Int) = n + r.shift := by
  obtain ⟨hfirst, hlast, -⟩ := ShiftRun.moves_iff.1 hn
  obtain ⟨hpos, hvalid⟩ := lowerRuns_valid r hr
  have hchar : (Int.toNat (n + r.shift)).isValidChar := by
    rw [Nat.isValidChar]
    omega
  have himage : (Char.ofNat (Int.toNat (n + r.shift))).toNat = Int.toNat (n + r.shift) := by
    rw [Char.ofNat, dif_pos hchar]
    rfl
  rw [himage]
  omega

/-- **A small form is its own small form.** -/
theorem lowerChar_of_mem_lowerChar (h : d ∈ lowerChar c) : lowerChar d = [d] := by
  rcases lowerChar_cases c with hc | hc | ⟨r, hr, hmoves, hc⟩
  · rw [hc] at h
    simp only [List.mem_cons, List.not_mem_nil, or_false] at h
    rcases h with rfl | rfl <;> rfl
  · rw [hc, List.mem_singleton] at h
    rw [h, hc]
  · rw [hc, List.mem_singleton] at h
    have himage := toNat_image hr hmoves
    rw [← h] at himage
    have hdot : d.toNat ≠ 0x130 := by
      have havoid := ShiftRun.not_between_of_avoids 
        (List.all_eq_true.1 lowerRuns_avoid_dotted r hr) hmoves himage
      omega
    have hmiss := List.all_eq_true.1 (List.all_eq_true.1 lowerRuns_miss r hr)
    have hstay : shiftChar lowerRuns d = d := shiftChar_of_not_moves fun q hq =>
      ShiftRun.moves_of_misses (hmiss q hq) (lowerRuns_valid r hr).1 hmoves himage
    rw [lowerChar_of_ne hdot, hstay]

theorem isBlank_of_mem_lowerChar (h : d ∈ lowerChar c) (hc : isBlank c = false) :
    isBlank d = false := by
  rcases lowerChar_cases c with hform | hform | ⟨r, hr, hmoves, hform⟩
  · rw [hform] at h
    simp only [List.mem_cons, List.not_mem_nil, or_false] at h
    rcases h with rfl | rfl <;> decide
  · rw [hform, List.mem_singleton] at h
    rwa [h]
  · rw [hform, List.mem_singleton] at h
    have himage := toNat_image hr hmoves
    rw [← h] at himage
    rw [isBlank, inRanges, List.any_eq_false]
    intro b hb
    have havoid := List.all_eq_true.1 (List.all_eq_true.1 lowerRuns_avoid_blanks r hr) b hb
    have hout := ShiftRun.not_between_of_avoids havoid hmoves himage
    simpa using hout

/-- The small form of a character between two texts, the nearest character of the first one in
front. -/
def smallForm (before : List Char) (c : Char) (rest : List Char) : List Char :=
  if c = 'Σ' then [if casedNext before && !casedNext rest then 'ς' else 'σ'] else lowerChar c

theorem lowerAfter_cons (before : List Char) (c : Char) (rest : List Char) :
    lowerAfter before (c :: rest) = smallForm before c rest ++ lowerAfter (c :: before) rest := rfl

theorem smallForm_cases (before : List Char) (c : Char) (rest : List Char) :
    smallForm before c rest = ['ς'] ∨ smallForm before c rest = ['σ'] ∨
      smallForm before c rest = lowerChar c := by
  unfold smallForm
  split
  · split
    · exact .inl rfl
    · exact .inr (.inl rfl)
  · exact .inr (.inr rfl)

theorem smallForm_ne_nil (before : List Char) (c : Char) (rest : List Char) :
    smallForm before c rest ≠ [] := by
  rcases smallForm_cases before c rest with h | h | h
  · simp [h]
  · simp [h]
  · rw [h]
    rcases lowerChar_cases c with hc | hc | ⟨r, -, -, hc⟩ <;> simp [hc]

theorem lowerChar_of_mem_smallForm {before rest : List Char} (h : d ∈ smallForm before c rest) :
    lowerChar d = [d] := by
  rcases smallForm_cases before c rest with hform | hform | hform
  · rw [hform, List.mem_singleton] at h
    rw [h]
    rfl
  · rw [hform, List.mem_singleton] at h
    rw [h]
    rfl
  · exact lowerChar_of_mem_lowerChar (hform ▸ h)

theorem isBlank_of_mem_smallForm {before rest : List Char} (h : d ∈ smallForm before c rest)
    (hc : isBlank c = false) : isBlank d = false := by
  rcases smallForm_cases before c rest with hform | hform | hform
  · rw [hform, List.mem_singleton] at h
    rw [h]
    decide
  · rw [hform, List.mem_singleton] at h
    rw [h]
    decide
  · exact isBlank_of_mem_lowerChar (hform ▸ h) hc

theorem lowerChar_of_mem_lowerAfter {before : List Char} (h : d ∈ lowerAfter before s) :
    lowerChar d = [d] := by
  induction s generalizing before with
  | nil => cases h
  | cons c s ih =>
    rw [lowerAfter_cons, List.mem_append] at h
    rcases h with h | h
    · exact lowerChar_of_mem_smallForm h
    · exact ih h

theorem lowerAfter_eq_self {before : List Char} (h : ∀ c ∈ s, lowerChar c = [c]) :
    lowerAfter before s = s := by
  induction s generalizing before with
  | nil => rfl
  | cons c s ih =>
    rw [List.forall_mem_cons] at h
    have hsigma : c ≠ 'Σ' := by
      rintro rfl
      exact absurd h.1 (by decide)
    rw [lowerAfter_cons, smallForm, if_neg hsigma, h.1, ih h.2]
    rfl

/-- **Small letters stay as they are.** -/
theorem lower_lower (s : List Char) : lower (lower s) = lower s :=
  lowerAfter_eq_self fun _ hc => lowerChar_of_mem_lowerAfter hc

theorem lower_eq_nil_iff : lower s = [] ↔ s = [] := by
  cases s with
  | nil => simp [lower, lowerAfter]
  | cons c s => simp [lower, lowerAfter_cons, smallForm_ne_nil]

/-- The small form of the last character ends that of the text. -/
theorem exists_lowerAfter_concat (before s : List Char) (c : Char) :
    ∃ start before', lowerAfter before (s ++ [c]) = start ++ smallForm before' c [] := by
  induction s generalizing before with
  | nil => exact ⟨[], before, by simp [lowerAfter_cons, lowerAfter]⟩
  | cons x s ih =>
    obtain ⟨start, before', h⟩ := ih (x :: before)
    exact ⟨smallForm before x (s ++ [c]) ++ start, before', by
      rw [List.cons_append, lowerAfter_cons, h, List.append_assoc]⟩

/-- **Small letters have blanks at their ends only where the text has.** -/
theorem trim_lower_trim (s : List Char) : trim (lower (trim s)) = lower (trim s) := by
  refine trim_eq_self (fun d hd => ?_) (fun d hd => ?_)
  · cases ht : trim s with
    | nil =>
      rw [ht] at hd
      cases hd
    | cons c rest =>
      rw [ht, lower, lowerAfter_cons, List.head?_append_of_ne_nil _ (smallForm_ne_nil _ _ _)] at hd
      exact isBlank_of_mem_smallForm (List.mem_of_head? hd)
        (isBlank_of_head?_trim (s := s) (by rw [ht]; rfl))
  · cases hl : (trim s).getLast? with
    | none =>
      rw [List.getLast?_eq_none_iff.1 hl] at hd
      cases hd
    | some c =>
      obtain ⟨front, hfront⟩ := List.getLast?_eq_some_iff.1 hl
      obtain ⟨start, before, hlower⟩ := exists_lowerAfter_concat [] front c
      rw [hfront, lower, hlower, List.getLast?_append_of_ne_nil _ (smallForm_ne_nil _ _ _)] at hd
      exact isBlank_of_mem_smallForm (List.mem_of_getLast? hd) (isBlank_of_getLast?_trim hl)

end Fingerprint.Text
