/-
The texts that are integers: blanks, perhaps a sign, digits of any script with
single underscores between them, and blanks (`IsInteger`). The reader works on
a text that has been brought to ASCII, where each character keeps its part in
the grammar; so it reads the integers and nothing else (`readInteger_eq_ok`),
and refuses a text for its number of digits iff the run of digits that it
begins with is too long, whatever follows (`readInteger_eq_error`).
-/
import Fingerprint.Decimal.Integer
import Mathlib.Data.List.TakeWhile

namespace Fingerprint.Decimal

open Text

/-! ## The grammar -/

/-- The blanks that may surround an integer. Within ASCII they are fewer than for other texts. -/
def isIntegerBlank (c : Char) : Bool := if c.toNat < 0x80 then isOuterBlank c else isBlank c

/-- A sign that need not be there, and whether it negates. -/
inductive IsSign : List Char → Bool → Prop where
  | none : IsSign [] false
  | plus : IsSign ['+'] false
  | minus : IsSign ['-'] true

/-- Digits, at least one, with at most one underscore between any two; and their values. -/
inductive IsNumeral : List Char → List Nat → Prop where
  | one {c : Char} {d : Nat} (hc : digitValue? c = some d) : IsNumeral [c] [d]
  | digit {c : Char} {d : Nat} {s : List Char} {ds : List Nat} (hc : digitValue? c = some d)
      (hs : IsNumeral s ds) : IsNumeral (c :: s) (d :: ds)
  | underscore {c : Char} {d : Nat} {s : List Char} {ds : List Nat} (hc : digitValue? c = some d)
      (hs : IsNumeral s ds) : IsNumeral (c :: '_' :: s) (d :: ds)

/-- Whether a text does not go on with a numeral. -/
def EndsNumeral (s : List Char) : Prop := ∀ c ∈ s.head?, digitValue? c = none ∧ c ≠ '_'

/-- Whether a text begins like an integer: with a sign and digits, of which none follows. -/
inductive BeginsInteger : List Char → Bool → List Nat → List Char → Prop where
  | intro {before sign numeral after : List Char} {negative : Bool} {ds : List Nat}
      (hbefore : ∀ c ∈ before, isIntegerBlank c = true) (hsign : IsSign sign negative)
      (hnumeral : IsNumeral numeral ds) (hafter : EndsNumeral after) :
      BeginsInteger (before ++ (sign ++ (numeral ++ after))) negative ds after

/-- The integer of a sign and digits. -/
def signed (negative : Bool) (ds : List Nat) : Int :=
  if negative then -(ofDigits 10 ds : Int) else ofDigits 10 ds

/-- Whether a text is an integer of this value. -/
inductive IsInteger : List Char → Int → Prop where
  | intro {s after : List Char} {negative : Bool} {ds : List Nat}
      (hs : BeginsInteger s negative ds after) (hafter : ∀ c ∈ after, isIntegerBlank c = true)
      (hlimit : ds.length ≤ digitLimit) : IsInteger s (signed negative ds)

/-- Why a text is refused. A run of too many digits is counted whatever follows it. -/
inductive Refuses (text : String) : LiteralError → Prop where
  | tooManyDigits {negative : Bool} {ds : List Nat} {after : List Char}
      (hs : BeginsInteger text.toList negative ds after) (hlimit : digitLimit < ds.length) :
      Refuses text (.tooManyDigits ds.length)
  | malformed (hnot : ∀ n, ¬ IsInteger text.toList n)
      (hdigits : ∀ negative ds after, BeginsInteger text.toList negative ds after →
        ds.length ≤ digitLimit) :
      Refuses text (.malformed text)

variable {c : Char} {d : Nat} {s x y : List Char} {ds : List Nat}

/-! ## Characters -/

theorem exists_zero_of_digitValue? (h : digitValue? c = some d) :
    ∃ z ∈ digitZeros, z ≤ c.toNat ∧ c.toNat < z + 10 ∧ d = c.toNat - z := by
  obtain ⟨z, hz, rfl⟩ := Option.map_eq_some_iff.1 h
  have hrange := List.find?_some hz
  rw [Bool.and_eq_true, decide_eq_true_eq, decide_eq_true_eq] at hrange
  exact ⟨z, List.mem_of_find?_eq_some hz, hrange.1, hrange.2, rfl⟩

theorem digitValue?_lt (h : digitValue? c = some d) : d < 10 := by
  obtain ⟨z, -, hlow, hhigh, rfl⟩ := exists_zero_of_digitValue? h
  omega

theorem eq_or_le_of_mem_digitZeros : ∀ z ∈ digitZeros, z = 0x30 ∨ 0x80 ≤ z := by decide

theorem asciiDigit?_of_ascii (h : c.toNat < 0x80) : asciiDigit? c = digitValue? c := by
  cases hd : digitValue? c with
  | some d =>
    obtain ⟨z, hz, hlow, hhigh, rfl⟩ := exists_zero_of_digitValue? hd
    have hzero : z = 0x30 := (eq_or_le_of_mem_digitZeros z hz).resolve_right (by omega)
    subst hzero
    have hascii : '0' ≤ c ∧ c ≤ '9' := ⟨hlow, Nat.le_of_lt_succ hhigh⟩
    rw [asciiDigit?, if_pos hascii]
    rfl
  | none =>
    refine Option.eq_none_iff_forall_ne_some.2 fun d hascii => ?_
    rw [digitValue?_of_asciiDigit? hascii] at hd
    cases hd

theorem digitValue?_of_isBlank (h : isBlank c = true) : digitValue? c = none := by
  refine Option.eq_none_iff_forall_ne_some.2 fun d hd => ?_
  obtain ⟨r, hr, hrange⟩ := List.any_eq_true.1 h
  obtain ⟨z, hz, hlow, hhigh, -⟩ := exists_zero_of_digitValue? hd
  have hapart : ∀ r ∈ blankRanges, ∀ z ∈ digitZeros, r.2 < z ∨ z + 10 ≤ r.1 := by decide
  rw [Bool.and_eq_true, decide_eq_true_eq, decide_eq_true_eq] at hrange
  have := hapart r hr z hz
  omega

theorem isIntegerBlank_of_ascii (h : c.toNat < 0x80) : isIntegerBlank c = isOuterBlank c := if_pos h

theorem isBlank_of_isIntegerBlank (h : isIntegerBlank c = true) : isBlank c = true := by
  by_cases hc : c.toNat < 0x80
  · rw [isIntegerBlank_of_ascii hc, isOuterBlank, Bool.or_eq_true, decide_eq_true_eq,
      decide_eq_true_eq] at h
    rcases h with rfl | ⟨hlow, hhigh⟩
    · decide
    · refine List.any_eq_true.2 ⟨(0x09, 0x0D), List.mem_cons_self, ?_⟩
      rw [Bool.and_eq_true, decide_eq_true_eq, decide_eq_true_eq]
      exact ⟨hlow, hhigh⟩
  · rwa [isIntegerBlank, if_neg hc] at h

theorem digitValue?_of_isIntegerBlank (h : isIntegerBlank c = true) : digitValue? c = none :=
  digitValue?_of_isBlank (isBlank_of_isIntegerBlank h)

theorem ne_of_digitValue? (h : digitValue? c = some d) : c ≠ '_' ∧ c ≠ '+' ∧ c ≠ '-' := by
  refine ⟨?_, ?_, ?_⟩ <;> rintro rfl <;> cases h

theorem asciiDigit?_eq_none (h : digitValue? c = none) : asciiDigit? c = none := by
  refine Option.eq_none_iff_forall_ne_some.2 fun d hd => ?_
  rw [digitValue?_of_asciiDigit? hd] at h
  cases h

/-! ## Runs of digits -/

theorem digitRun_of_endsNumeral (h : EndsNumeral s) : digitRun s = some ([], s) := by
  have hstop : ∀ c ∈ s.head?, asciiDigit? c = none ∧ c ≠ '_' := fun c hc =>
    ⟨asciiDigit?_eq_none (h c hc).1, (h c hc).2⟩
  fun_cases digitRun s with
  | case1 => rfl
  | case2 | case6 => exact absurd rfl (hstop '_' rfl).2
  | case3 | case7 => rfl
  | case4 c e rest v hc | case5 c e rest v hc | case8 c rest hnext v hc =>
    rw [(hstop c rfl).1] at hc
    cases hc

theorem digitRun_cons (hc : asciiDigit? c = some d) (hs : s.head? ≠ some '_') :
    digitRun (c :: s) = (digitRun s).map fun r => (d :: r.1, r.2) := by
  rw [digitRun, hc]
  rintro e t rfl
  exact hs rfl

theorem digitRun_underscore {e : Char} (hc : asciiDigit? c = some d)
    (he : (asciiDigit? e).isSome = true) :
    digitRun (c :: '_' :: e :: s) = (digitRun (e :: s)).map fun r => (d :: r.1, r.2) := by
  rw [digitRun, hc]
  exact if_pos he

theorem IsNumeral.exists_cons (h : IsNumeral x ds) :
    ∃ c t d, x = c :: t ∧ digitValue? c = some d := by
  cases h with
  | one hc => exact ⟨_, _, _, rfl, hc⟩
  | digit hc _ => exact ⟨_, _, _, rfl, hc⟩
  | underscore hc _ => exact ⟨_, _, _, rfl, hc⟩

theorem IsNumeral.ne_nil (h : IsNumeral x ds) : ds ≠ [] := by
  cases h <;> exact List.cons_ne_nil _ _

/-- A numeral within ASCII is read as its digits, up to where it ends. -/
theorem digitRun_of_isNumeral (hx : IsNumeral x ds) (hascii : ∀ c ∈ x, c.toNat < 0x80)
    (hy : EndsNumeral y) : digitRun (x ++ y) = some (ds, y) := by
  induction hx with
  | one hc =>
    rw [← asciiDigit?_of_ascii (hascii _ List.mem_cons_self)] at hc
    have hnext : y.head? ≠ some '_' := fun h => (hy '_' h).2 rfl
    rw [List.singleton_append, digitRun_cons hc hnext, digitRun_of_endsNumeral hy]
    rfl
  | digit hc hs ih =>
    rw [List.forall_mem_cons] at hascii
    rw [← asciiDigit?_of_ascii hascii.1] at hc
    obtain ⟨e, t, d, rfl, he⟩ := hs.exists_cons
    have hnext : (e :: t ++ y).head? ≠ some '_' := by
      rintro ⟨⟩
      cases he
    rw [List.cons_append, digitRun_cons hc hnext, ih hascii.2]
    rfl
  | underscore hc hs ih =>
    rw [List.forall_mem_cons, List.forall_mem_cons] at hascii
    rw [← asciiDigit?_of_ascii hascii.1] at hc
    obtain ⟨e, t, d, rfl, he⟩ := hs.exists_cons
    have hdigit : (asciiDigit? e).isSome = true := by
      rw [asciiDigit?_of_ascii (hascii.2.2 e List.mem_cons_self), he]
      rfl
    rw [List.cons_append, List.cons_append, List.cons_append, digitRun_underscore hc hdigit,
      ← List.cons_append, ih hascii.2.2]
    rfl

theorem BeginsInteger.suffix {negative : Bool} (h : BeginsInteger s negative ds y) : y <:+ s := by
  cases h with
  | intro =>
    rw [← List.append_assoc, ← List.append_assoc]
    exact List.suffix_append _ _

theorem endsNumeral_cons (hc : c.toNat < 0x80) (hdigit : asciiDigit? c = none) (hmark : c ≠ '_') :
    EndsNumeral (c :: s) := by
  rintro e ⟨⟩
  exact ⟨asciiDigit?_of_ascii hc ▸ hdigit, hmark⟩

/-- What is read as digits is a numeral, unless there is none. -/
theorem isNumeral_of_digitRun (hascii : ∀ c ∈ s, c.toNat < 0x80)
    (h : digitRun s = some (ds, y)) :
    EndsNumeral y ∧ (ds = [] ∧ y = s ∨ ∃ x, s = x ++ y ∧ IsNumeral x ds) := by
  fun_induction digitRun s generalizing ds y with
  | case1 =>
    cases h
    exact ⟨nofun, .inl ⟨rfl, rfl⟩⟩
  | case2 | case5 | case6 => cases h
  | case3 c d rest hc hmark | case7 c rest _ hc hmark =>
    cases h
    exact ⟨endsNumeral_cons (hascii c List.mem_cons_self) hc hmark, .inl ⟨rfl, rfl⟩⟩
  | case4 c e rest v hc he ih =>
    rw [List.forall_mem_cons, List.forall_mem_cons] at hascii
    rw [asciiDigit?_of_ascii hascii.1] at hc
    obtain ⟨⟨more, after⟩, hmore, hds⟩ := Option.map_eq_some_iff.1 h
    cases hds
    obtain ⟨hend, ⟨rfl, rfl⟩ | ⟨x, hrest, hx⟩⟩ := ih hascii.2.2 hmore
    · rw [asciiDigit?_eq_none (hend e rfl).1] at he
      cases he
    · exact ⟨hend, .inr ⟨c :: '_' :: x, by rw [hrest]; rfl, .underscore hc hx⟩⟩
  | case8 c rest hnext v hc ih =>
    rw [List.forall_mem_cons] at hascii
    rw [asciiDigit?_of_ascii hascii.1] at hc
    obtain ⟨⟨more, after⟩, hmore, hds⟩ := Option.map_eq_some_iff.1 h
    cases hds
    obtain ⟨hend, ⟨rfl, rfl⟩ | ⟨x, rfl, hx⟩⟩ := ih hascii.2 hmore
    · exact ⟨hend, .inr ⟨[c], rfl, .one hc⟩⟩
    · exact ⟨hend, .inr ⟨c :: x, rfl, .digit hc hx⟩⟩

/-! ## Texts within ASCII -/

/-- The sign of a text and the digits behind it, if it has any. -/
def leading? (s : List Char) : Option (Bool × List Nat × List Char) :=
  match digitRun (splitSign (s.dropWhile isOuterBlank)).2 with
  | some (d :: ds, rest) => some ((splitSign (s.dropWhile isOuterBlank)).1, d :: ds, rest)
  | _ => none

theorem splitSign_append {sign : List Char} {negative : Bool} (hsign : IsSign sign negative)
    (hc : c ≠ '+' ∧ c ≠ '-') : splitSign (sign ++ c :: s) = (negative, c :: s) := by
  cases hsign with
  | plus => rfl
  | minus => rfl
  | none =>
    rw [List.nil_append]
    unfold splitSign
    split
    next hs =>
      cases hs
      exact absurd rfl hc.2
    next hs =>
      cases hs
      exact absurd rfl hc.1
    next => rfl

theorem isSign_splitSign (s : List Char) :
    ∃ sign, s = sign ++ (splitSign s).2 ∧ IsSign sign (splitSign s).1 := by
  unfold splitSign
  split
  next => exact ⟨['-'], rfl, .minus⟩
  next => exact ⟨['+'], rfl, .plus⟩
  next => exact ⟨[], rfl, .none⟩

theorem dropWhile_signed {sign : List Char} {negative : Bool} (hsign : IsSign sign negative)
    (hc : isOuterBlank c = false) :
    (sign ++ c :: s).dropWhile isOuterBlank = sign ++ c :: s := by
  cases hsign with
  | none => exact List.dropWhile_cons_of_neg (by simp [hc])
  | plus => rfl
  | minus => rfl

/-- **Within ASCII what an integer begins with is read off.** -/
theorem beginsInteger_iff_of_ascii {negative : Bool} (hascii : ∀ c ∈ s, c.toNat < 0x80) :
    BeginsInteger s negative ds y ↔ leading? s = some (negative, ds, y) := by
  constructor
  · rintro ⟨hbefore, hsign, hnumeral, hafter⟩
    rename_i before sign numeral
    simp only [List.forall_mem_append] at hascii
    obtain ⟨hascii, -, hdigits, -⟩ := hascii
    obtain ⟨c, t, d, rfl, hc⟩ := hnumeral.exists_cons
    have hblank : isOuterBlank c = false := by
      rw [← isIntegerBlank_of_ascii (hdigits c List.mem_cons_self), Bool.eq_false_iff]
      intro h
      rw [digitValue?_of_isIntegerBlank h] at hc
      cases hc
    have hdrop : (before ++ (sign ++ (c :: t ++ y))).dropWhile isOuterBlank =
        sign ++ c :: (t ++ y) := by
      rw [List.dropWhile_append_of_pos, List.cons_append, dropWhile_signed hsign hblank]
      exact fun b hb => isIntegerBlank_of_ascii (hascii b hb) ▸ hbefore b hb
    have hrun := digitRun_of_isNumeral hnumeral hdigits hafter
    obtain ⟨e, es, rfl⟩ := List.exists_cons_of_ne_nil hnumeral.ne_nil
    rw [leading?, hdrop, splitSign_append hsign (ne_of_digitValue? hc).2, ← List.cons_append, hrun]
  · intro h
    unfold leading? at h
    split at h
    next d more rest hrun =>
      cases h
      have hbefore : ∀ c ∈ s.takeWhile isOuterBlank, isOuterBlank c = true :=
        fun c => List.mem_takeWhile_imp
      have hsplit := (List.takeWhile_append_dropWhile (p := isOuterBlank) (l := s)).symm
      have hdrop := List.dropWhile_suffix (l := s) isOuterBlank
      generalize s.dropWhile isOuterBlank = t at *
      generalize s.takeWhile isOuterBlank = before at *
      obtain ⟨sign, hsign, hnegative⟩ := isSign_splitSign t
      have hbody : ∀ c ∈ (splitSign t).2, c.toNat < 0x80 := fun c hc =>
        hascii c (hdrop.subset ((splitSign_suffix t).subset hc))
      obtain ⟨hend, ⟨hnil, -⟩ | ⟨x, hx, hnumeral⟩⟩ := isNumeral_of_digitRun hbody hrun
      · cases hnil
      · have hblank : ∀ c ∈ before, isIntegerBlank c = true := by
          intro c hc
          rw [isIntegerBlank_of_ascii (hascii c (hsplit ▸ List.mem_append_left _ hc))]
          exact hbefore c hc
        have hbegins := BeginsInteger.intro hblank hnegative hnumeral hend
        rwa [← hx, ← hsign, ← hsplit] at hbegins
    next => cases h

/-! ## Texts beyond ASCII -/

/-- The character that a text brought to ASCII has in the place of another one. -/
def asciiChar (c : Char) : Char :=
  if c.toNat < 0x7F then c
  else if isBlank c then ' '
  else match digitValue? c with
    | some d => Char.ofNat ('0'.toNat + d)
    | none => '?'

/-- Whether a character is brought to ASCII; any other one ends the text. -/
def IsKept (c : Char) : Prop :=
  c.toNat < 0x7F ∨ isBlank c = true ∨ (digitValue? c).isSome = true

theorem toAscii_cons (h : IsKept c) (s : List Char) :
    toAscii (c :: s) = asciiChar c :: toAscii s := by
  rw [toAscii, asciiChar]
  split
  · rfl
  · split
    · rfl
    · next hlow hblank =>
      obtain ⟨d, hd⟩ := Option.isSome_iff_exists.1 ((h.resolve_left hlow).resolve_left hblank)
      rw [hd]

theorem toAscii_cons_of_not (h : ¬ IsKept c) (s : List Char) : toAscii (c :: s) = ['?'] := by
  rw [IsKept, not_or, not_or, Option.not_isSome_iff_eq_none] at h
  rw [toAscii, if_neg h.1, if_neg h.2.1, h.2.2]

/-- A character that is kept is within ASCII already, or a blank, or a digit. -/
theorem asciiChar_cases (h : IsKept c) :
    (c.toNat < 0x80 ∧ asciiChar c = c) ∨
      (0x80 ≤ c.toNat ∧ isBlank c = true ∧ asciiChar c = ' ') ∨
      ∃ d < 10, 0x80 ≤ c.toNat ∧ isBlank c = false ∧ digitValue? c = some d ∧
        asciiChar c = Char.ofNat ('0'.toNat + d) := by
  unfold asciiChar
  split
  next hlow => exact .inl ⟨Nat.lt_succ_of_lt hlow, rfl⟩
  next hlow =>
    split
    next hblank =>
      obtain ⟨r, hr, hrange⟩ := List.any_eq_true.1 hblank
      have hapart : ∀ r ∈ blankRanges, r.2 < 0x7F ∨ 0x80 ≤ r.1 := by decide
      rw [Bool.and_eq_true, decide_eq_true_eq, decide_eq_true_eq] at hrange
      have := hapart r hr
      exact .inr (.inl ⟨by omega, hblank, rfl⟩)
    next hblank =>
      obtain ⟨d, hd⟩ := Option.isSome_iff_exists.1 ((h.resolve_left hlow).resolve_left hblank)
      obtain ⟨z, hz, hfrom, hto, -⟩ := exists_zero_of_digitValue? hd
      have := eq_or_le_of_mem_digitZeros z hz
      rw [hd]
      exact .inr (.inr ⟨d, digitValue?_lt hd, by omega, Bool.eq_false_iff.2 hblank, rfl, rfl⟩)

theorem asciiDigit_facts : ∀ d < 10, (Char.ofNat ('0'.toNat + d)).toNat < 0x80 ∧
    isIntegerBlank (Char.ofNat ('0'.toNat + d)) = false ∧
    digitValue? (Char.ofNat ('0'.toNat + d)) = some d := by
  decide

theorem asciiChar_lt (h : IsKept c) : (asciiChar c).toNat < 0x80 := by
  rcases asciiChar_cases h with ⟨hlow, hc⟩ | ⟨-, -, hc⟩ | ⟨d, hd, -, -, -, hc⟩ <;> rw [hc]
  · exact hlow
  · decide
  · exact (asciiDigit_facts d hd).1

theorem isIntegerBlank_asciiChar (h : IsKept c) :
    isIntegerBlank (asciiChar c) = isIntegerBlank c := by
  rcases asciiChar_cases h with ⟨-, hc⟩ | ⟨hhigh, hblank, hc⟩ | ⟨d, hd, hhigh, hblank, -, hc⟩ <;>
    rw [hc]
  · rw [isIntegerBlank, isIntegerBlank, if_neg (Nat.not_lt.2 hhigh), hblank]
    rfl
  · rw [(asciiDigit_facts d hd).2.1, isIntegerBlank, if_neg (Nat.not_lt.2 hhigh), hblank]

theorem digitValue?_asciiChar (h : IsKept c) : digitValue? (asciiChar c) = digitValue? c := by
  rcases asciiChar_cases h with ⟨-, hc⟩ | ⟨-, hblank, hc⟩ | ⟨d, hd, -, -, hvalue, hc⟩ <;> rw [hc]
  · rw [digitValue?_of_isBlank hblank]
    rfl
  · rw [(asciiDigit_facts d hd).2.2, hvalue]

/-- No other character is brought to a mark of the grammar. -/
theorem asciiChar_eq_iff {m : Char} (h : IsKept c) (hm : m = '_' ∨ m = '+' ∨ m = '-') :
    asciiChar c = m ↔ c = m := by
  have hlow : m.toNat < 0x80 := by
    rcases hm with rfl | rfl | rfl <;> decide
  have hne : 0x80 ≤ c.toNat → c ≠ m := by
    rintro hhigh rfl
    exact absurd hlow (Nat.not_lt.2 hhigh)
  rcases asciiChar_cases h with ⟨-, hc⟩ | ⟨hhigh, -, hc⟩ | ⟨d, hd, hhigh, -, -, hc⟩ <;> rw [hc]
  · have hspace : ' ' ≠ m := by
      rcases hm with rfl | rfl | rfl <;> decide
    exact iff_of_false hspace (hne hhigh)
  · have hdigit : Char.ofNat ('0'.toNat + d) ≠ m := by
      rintro rfl
      obtain ⟨hunderscore, hplus, hminus⟩ := ne_of_digitValue? (asciiDigit_facts d hd).2.2
      exact hm.elim hunderscore fun hsign => hsign.elim hplus hminus
    exact iff_of_false hdigit (hne hhigh)

/-! A text brought to ASCII, part by part. -/

theorem toAscii_append (hx : ∀ c ∈ x, IsKept c) (y : List Char) :
    toAscii (x ++ y) = x.map asciiChar ++ toAscii y := by
  induction x with
  | nil => rfl
  | cons c x ih =>
    rw [List.forall_mem_cons] at hx
    rw [List.cons_append, toAscii_cons hx.1, ih hx.2]
    rfl

/-- Where no text ends early, each character was kept. -/
theorem eq_append_of_toAscii (h : toAscii s = x ++ y) (hx : '?' ∉ x) :
    ∃ x' y', s = x' ++ y' ∧ (∀ c ∈ x', IsKept c) ∧ x'.map asciiChar = x ∧ toAscii y' = y := by
  induction x generalizing s with
  | nil => exact ⟨[], s, rfl, nofun, rfl, h⟩
  | cons e x ih =>
    rw [List.mem_cons, not_or] at hx
    cases s with
    | nil => cases h
    | cons c s =>
      by_cases hc : IsKept c
      · rw [toAscii_cons hc, List.cons_append] at h
        obtain ⟨hhead, htail⟩ := List.cons.inj h
        obtain ⟨x', y', rfl, hkept, hmap, hrest⟩ := ih htail hx.2
        have hchars : (c :: x').map asciiChar = e :: x := by rw [List.map_cons, hhead, hmap]
        exact ⟨c :: x', y', rfl, List.forall_mem_cons.2 ⟨hc, hkept⟩, hchars, hrest⟩
      · rw [toAscii_cons_of_not hc, List.cons_append] at h
        exact absurd (List.cons.inj h).1 hx.1

theorem toAscii_lt (s : List Char) : ∀ c ∈ toAscii s, c.toNat < 0x80 := by
  induction s with
  | nil => nofun
  | cons c s ih =>
    by_cases hc : IsKept c
    · rw [toAscii_cons hc]
      exact List.forall_mem_cons.2 ⟨asciiChar_lt hc, ih⟩
    · rw [toAscii_cons_of_not hc]
      exact List.forall_mem_singleton.2 (by decide)

theorem endsNumeral_toAscii : EndsNumeral (toAscii s) ↔ EndsNumeral s := by
  cases s with
  | nil => rfl
  | cons c s =>
    by_cases hc : IsKept c
    · rw [toAscii_cons hc]
      simp [EndsNumeral, digitValue?_asciiChar hc, asciiChar_eq_iff hc (.inl rfl)]
    · have hmark : c ≠ '_' := by
        rintro rfl
        exact hc (.inl (by decide))
      have hdigit : digitValue? c = none :=
        Option.not_isSome_iff_eq_none.1 fun h => hc (.inr (.inr h))
      have hother : digitValue? '?' = none := rfl
      rw [toAscii_cons_of_not hc]
      simp [EndsNumeral, hdigit, hmark, hother]

theorem all_toAscii (s : List Char) : (toAscii s).all isIntegerBlank = s.all isIntegerBlank := by
  induction s with
  | nil => rfl
  | cons c s ih =>
    by_cases hc : IsKept c
    · rw [toAscii_cons hc, List.all_cons, List.all_cons, ih, isIntegerBlank_asciiChar hc]
    · have hblank : isIntegerBlank c = false :=
        Bool.eq_false_iff.2 fun h => hc (.inr (.inl (isBlank_of_isIntegerBlank h)))
      rw [toAscii_cons_of_not hc, List.all_cons, List.all_cons, hblank]
      rfl

theorem isNumeral_map (hx : ∀ c ∈ x, IsKept c) :
    IsNumeral (x.map asciiChar) ds ↔ IsNumeral x ds := by
  constructor
  · intro h
    generalize hw : x.map asciiChar = w at h
    induction h generalizing x with
    | one hc =>
      obtain ⟨c, rfl, rfl⟩ := List.map_eq_singleton_iff.1 hw
      exact .one (digitValue?_asciiChar (hx c List.mem_cons_self) ▸ hc)
    | digit hc _ ih =>
      obtain ⟨c, t, rfl, rfl, ht⟩ := List.map_eq_cons_iff.1 hw
      rw [List.forall_mem_cons] at hx
      exact .digit (digitValue?_asciiChar hx.1 ▸ hc) (ih hx.2 ht)
    | underscore hc _ ih =>
      obtain ⟨c, t, rfl, rfl, ht⟩ := List.map_eq_cons_iff.1 hw
      obtain ⟨m, u, rfl, hm, hu⟩ := List.map_eq_cons_iff.1 ht
      rw [List.forall_mem_cons, List.forall_mem_cons] at hx
      rw [asciiChar_eq_iff hx.2.1 (.inl rfl)] at hm
      subst hm
      exact .underscore (digitValue?_asciiChar hx.1 ▸ hc) (ih hx.2.2 hu)
  · intro h
    induction h with
    | one hc => exact .one ((digitValue?_asciiChar (hx _ List.mem_cons_self)).trans hc)
    | digit hc _ ih =>
      rw [List.forall_mem_cons] at hx
      exact .digit ((digitValue?_asciiChar hx.1).trans hc) (ih hx.2)
    | underscore hc _ ih =>
      rw [List.forall_mem_cons, List.forall_mem_cons] at hx
      exact .underscore ((digitValue?_asciiChar hx.1).trans hc) (ih hx.2.2)

theorem isSign_map {negative : Bool} (hx : ∀ c ∈ x, IsKept c) :
    IsSign (x.map asciiChar) negative ↔ IsSign x negative := by
  constructor
  · intro h
    generalize hw : x.map asciiChar = w at h
    cases h with
    | none =>
      rw [List.map_eq_nil_iff.1 hw]
      exact .none
    | plus =>
      obtain ⟨c, rfl, hc⟩ := List.map_eq_singleton_iff.1 hw
      rw [asciiChar_eq_iff (hx c List.mem_cons_self) (.inr (.inl rfl))] at hc
      rw [hc]
      exact .plus
    | minus =>
      obtain ⟨c, rfl, hc⟩ := List.map_eq_singleton_iff.1 hw
      rw [asciiChar_eq_iff (hx c List.mem_cons_self) (.inr (.inr rfl))] at hc
      rw [hc]
      exact .minus
  · rintro (_ | _ | _)
    · exact .none
    · exact .plus
    · exact .minus

/-- Whether a character has a part in the grammar. -/
def IsPart (c : Char) : Prop :=
  isIntegerBlank c = true ∨ (digitValue? c).isSome = true ∨ c = '_' ∨ c = '+' ∨ c = '-'

theorem IsPart.isKept (h : IsPart c) : IsKept c := by
  rcases h with hblank | hdigit | rfl | rfl | rfl
  · exact .inr (.inl (isBlank_of_isIntegerBlank hblank))
  · exact .inr (.inr hdigit)
  all_goals exact .inl (by decide)

theorem isPart_of_isSign {negative : Bool} (h : IsSign x negative) : ∀ c ∈ x, IsPart c := by
  cases h with
  | none => nofun
  | plus => simp [IsPart]
  | minus => simp [IsPart]

theorem isPart_of_isNumeral (h : IsNumeral x ds) : ∀ c ∈ x, IsPart c := by
  have hdigit : ∀ {c d}, digitValue? c = some d → IsPart c := fun hc =>
    .inr (.inl (Option.isSome_of_mem hc))
  induction h with
  | one hc => exact List.forall_mem_singleton.2 (hdigit hc)
  | digit hc _ ih => exact List.forall_mem_cons.2 ⟨hdigit hc, ih⟩
  | underscore hc _ ih =>
    exact List.forall_mem_cons.2 ⟨hdigit hc,
      List.forall_mem_cons.2 ⟨.inr (.inr (.inl rfl)), ih⟩⟩

/-- **Bringing a text to ASCII keeps what it begins with**, and what follows but for its end. -/
theorem beginsInteger_toAscii {negative : Bool} :
    BeginsInteger (toAscii s) negative ds y ↔
      ∃ t, toAscii t = y ∧ BeginsInteger s negative ds t := by
  constructor
  · intro h
    generalize ha : toAscii s = a at h
    obtain ⟨hbefore, hsign, hnumeral, hafter⟩ := h
    rename_i before sign numeral
    have hstop : ¬ IsPart '?' := by
      rintro (h | h | h | h | h) <;> cases h
    have hmark : '?' ∉ before ++ (sign ++ numeral) := by
      simp only [List.mem_append, not_or]
      exact ⟨fun h => hstop (.inl (hbefore _ h)), fun h => hstop (isPart_of_isSign hsign _ h),
        fun h => hstop (isPart_of_isNumeral hnumeral _ h)⟩
    rw [← List.append_assoc sign, ← List.append_assoc before] at ha
    obtain ⟨x, t, rfl, hkept, hmap, rfl⟩ := eq_append_of_toAscii ha hmark
    obtain ⟨b, xs, rfl, rfl, hrest⟩ := List.map_eq_append_iff.1 hmap
    obtain ⟨sg, num, rfl, rfl, rfl⟩ := List.map_eq_append_iff.1 hrest
    simp only [List.forall_mem_append] at hkept
    obtain ⟨hb, hsg, hnum⟩ := hkept
    refine ⟨t, rfl, ?_⟩
    rw [List.append_assoc, List.append_assoc]
    refine .intro (fun c hc => ?_) ((isSign_map hsg).1 hsign) ((isNumeral_map hnum).1 hnumeral)
      (endsNumeral_toAscii.1 hafter)
    rw [← isIntegerBlank_asciiChar (hb c hc)]
    exact hbefore _ (List.mem_map_of_mem hc)
  · rintro ⟨t, rfl, ⟨hbefore, hsign, hnumeral, hafter⟩⟩
    have hb : ∀ c ∈ _, IsKept c := fun c hc => IsPart.isKept (.inl (hbefore c hc))
    have hsg : ∀ c ∈ _, IsKept c := fun c hc => (isPart_of_isSign hsign c hc).isKept
    have hnum : ∀ c ∈ _, IsKept c := fun c hc => (isPart_of_isNumeral hnumeral c hc).isKept
    rw [toAscii_append hb, toAscii_append hsg, toAscii_append hnum]
    refine .intro (fun c hc => ?_) ((isSign_map hsg).2 hsign) ((isNumeral_map hnum).2 hnumeral)
      (endsNumeral_toAscii.2 hafter)
    obtain ⟨e, he, rfl⟩ := List.mem_map.1 hc
    rw [isIntegerBlank_asciiChar (hb e he)]
    exact hbefore e he

/-! ## Reading -/

/-- The text that is looked at to read an integer: the same if it is within ASCII. -/
def brought (s : List Char) : List Char :=
  if s.all fun c => decide (c.toNat < 0x80) then s else toAscii s

theorem brought_lt (s : List Char) : ∀ c ∈ brought s, c.toNat < 0x80 := by
  unfold brought
  split
  next h => simpa using h
  next => exact toAscii_lt s

/-- What a text begins with is read off, and whether nothing but blanks follows. -/
theorem beginsInteger_iff {negative blank : Bool} :
    (∃ t, BeginsInteger s negative ds t ∧ t.all isIntegerBlank = blank) ↔
      ∃ t, leading? (brought s) = some (negative, ds, t) ∧ t.all isIntegerBlank = blank := by
  simp only [← beginsInteger_iff_of_ascii (brought_lt s)]
  unfold brought
  split
  next => rfl
  next =>
    simp only [beginsInteger_toAscii]
    constructor
    · rintro ⟨t, ht, hblank⟩
      exact ⟨toAscii t, ⟨t, rfl, ht⟩, (all_toAscii t).trans hblank⟩
    · rintro ⟨-, ⟨t, rfl, ht⟩, hblank⟩
      exact ⟨t, ht, (all_toAscii t).symm.trans hblank⟩

theorem readInteger_eq (text : String) : readInteger text =
    let taken := splitSign ((brought text.toList).dropWhile isOuterBlank)
    match digitRun taken.2 with
    | none => .error (.malformed text)
    | some (ds, rest) =>
      if digitLimit < ds.length then .error (.tooManyDigits ds.length)
      else if ds.isEmpty || !rest.all isOuterBlank then .error (.malformed text)
      else .ok (signed taken.1 ds) := rfl

theorem readInteger_of_leading {text : String} {negative : Bool}
    (h : leading? (brought text.toList) = some (negative, ds, y)) :
    readInteger text = if digitLimit < ds.length then .error (.tooManyDigits ds.length)
      else if y.all isOuterBlank then .ok (signed negative ds) else .error (.malformed text) := by
  unfold leading? at h
  split at h
  next d more rest hrun =>
    cases h
    rw [readInteger_eq]
    simp only [hrun, List.isEmpty_cons, Bool.false_or]
    cases y.all isOuterBlank <;> rfl
  next => cases h

theorem readInteger_of_no_leading {text : String} (h : leading? (brought text.toList) = none) :
    readInteger text = .error (.malformed text) := by
  unfold leading? at h
  split at h
  next => cases h
  next hrun =>
    rw [readInteger_eq]
    rcases hdigits : digitRun (splitSign ((brought text.toList).dropWhile isOuterBlank)).2 with
      _ | ⟨_ | ⟨d, more⟩, rest⟩
    · simp only [hdigits]
    · simp only [hdigits]
      rfl
    · exact absurd hdigits (hrun d more rest)

theorem readInteger_of_begins {text : String} {negative : Bool}
    (h : BeginsInteger text.toList negative ds y) :
    readInteger text = if digitLimit < ds.length then .error (.tooManyDigits ds.length)
      else if y.all isIntegerBlank then .ok (signed negative ds)
      else .error (.malformed text) := by
  obtain ⟨t, ht, hblank⟩ := beginsInteger_iff.1 ⟨y, h, rfl⟩
  have hsuffix := ((beginsInteger_iff_of_ascii (brought_lt _)).2 ht).suffix
  have hsame : t.all isOuterBlank = t.all isIntegerBlank := by
    rw [Bool.eq_iff_iff, List.all_eq_true, List.all_eq_true]
    refine forall₂_congr fun c hc => ?_
    rw [isIntegerBlank_of_ascii (brought_lt _ c (hsuffix.subset hc))]
  rw [readInteger_of_leading ht, hsame, hblank]

theorem readInteger_of_not_begins {text : String}
    (h : ∀ negative ds after, ¬ BeginsInteger text.toList negative ds after) :
    readInteger text = .error (.malformed text) := by
  refine readInteger_of_no_leading (Option.eq_none_iff_forall_ne_some.2 fun r hr => ?_)
  obtain ⟨negative, ds, t⟩ := r
  obtain ⟨after, hs, -⟩ := beginsInteger_iff.2 ⟨t, hr, rfl⟩
  exact h negative ds after hs

theorem beginsInteger_or_not (s : List Char) :
    (∃ negative ds after, BeginsInteger s negative ds after) ∨
      ∀ negative ds after, ¬ BeginsInteger s negative ds after := by
  by_cases h : ∃ negative ds after, BeginsInteger s negative ds after
  · exact .inl h
  · simp only [not_exists] at h
    exact .inr h

/-- **The reader reads the integers and nothing else.** -/
theorem readInteger_eq_ok {text : String} {n : Int} :
    readInteger text = .ok n ↔ IsInteger text.toList n := by
  constructor
  · intro h
    rcases beginsInteger_or_not text.toList with ⟨negative, ds, after, hs⟩ | hs
    · rw [readInteger_of_begins hs] at h
      split at h
      next => cases h
      next hlimit =>
        split at h
        next hblank =>
          cases h
          exact .intro hs (List.all_eq_true.1 hblank) (Nat.not_lt.1 hlimit)
        next => cases h
    · rw [readInteger_of_not_begins hs] at h
      cases h
  · intro h
    generalize hs : text.toList = s at h
    obtain ⟨hbegins, hafter, hlimit⟩ := h
    subst hs
    rw [readInteger_of_begins hbegins, if_neg (Nat.not_lt.2 hlimit),
      if_pos (List.all_eq_true.2 hafter)]

/-- **Any other text is refused, and why.** -/
theorem readInteger_eq_error {text : String} {e : LiteralError} :
    readInteger text = .error e ↔ Refuses text e := by
  constructor
  · intro h
    have hnot : ∀ n, ¬ IsInteger text.toList n := by
      intro n hn
      rw [readInteger_eq_ok.2 hn] at h
      cases h
    -- The first run of digits is not too long, unless that is the reason.
    have hdigits : e = .malformed text → ∀ negative ds after,
        BeginsInteger text.toList negative ds after → ds.length ≤ digitLimit := by
      rintro rfl negative ds after hs
      rw [readInteger_of_begins hs] at h
      split at h
      next => cases h
      next hlimit => exact Nat.not_lt.1 hlimit
    rcases beginsInteger_or_not text.toList with ⟨negative, ds, after, hs⟩ | hs
    · rw [readInteger_of_begins hs] at h
      split at h
      next hlimit =>
        cases h
        exact .tooManyDigits hs hlimit
      next =>
        split at h
        next => cases h
        next =>
          cases h
          exact .malformed hnot (hdigits rfl)
    · rw [readInteger_of_not_begins hs] at h
      cases h
      exact .malformed hnot fun negative ds after h => absurd h (hs negative ds after)
  · rintro (⟨hs, hlimit⟩ | ⟨hnot, hdigits⟩)
    · rw [readInteger_of_begins hs, if_pos hlimit]
    · rcases beginsInteger_or_not text.toList with ⟨negative, ds, after, hs⟩ | hs
      · have hlimit := hdigits _ _ _ hs
        have hblank : ¬ after.all isIntegerBlank = true := fun h =>
          hnot _ (.intro hs (List.all_eq_true.1 h) hlimit)
        rw [readInteger_of_begins hs, if_neg (Nat.not_lt.2 hlimit), if_neg hblank]
      · exact readInteger_of_not_begins hs

end Fingerprint.Decimal
