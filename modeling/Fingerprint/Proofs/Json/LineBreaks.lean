/-
Reading JSON whose lines end otherwise. Between tokens every line break is
white space, within a string none is allowed, and no other token holds one. So
a reader of a text with other breaks comes to the same result, leaves the same
rest but for its breaks, or stops for a reason of the same kind (`Alike`), and
the same document is read (`read_endLinesWith`). Both readers are bounded by the
lengths of their texts, which differ; neither bound is ever reached.
-/
import Fingerprint.Proofs.Json.LongIntegers
import Fingerprint.Proofs.Json.RoundTrip
import Fingerprint.Proofs.Text.LineBreaks

namespace Fingerprint.Json

open Text Decimal

/-- Whether a text is made of line breaks, and not empty. -/
structure IsBreak (br : List Char) : Prop where
  ne_nil : br ≠ []
  break_of_mem : ∀ c ∈ br, c = '\n' ∨ c = '\r'

theorem isBreak_of_mem {br : List Char} (h : br ∈ returnBreaks) : IsBreak br := by
  have hall : ∀ br ∈ returnBreaks, br ≠ [] ∧ ∀ c ∈ br, c = '\n' ∨ c = '\r' := by
    simp [returnBreaks]
  exact ⟨(hall br h).1, (hall br h).2⟩

/-- Whether two answers of readers are alike: the same result is there, and what is left differs in
its breaks, or both texts are malformed, or both hold as many digits too many. -/
inductive Alike (br : List Char) {α : Type} : Step α → Step α → Prop where
  | ok (a : α) (rest : List Char) : Alike br (.ok (a, withBreaks br rest)) (.ok (a, rest))
  | malformed {c c' : Cause} {n n' : Nat} :
    Alike br (.error (.malformed c n)) (.error (.malformed c' n'))
  | tooManyDigits (n : Nat) : Alike br (.error (.tooManyDigits n)) (.error (.tooManyDigits n))

variable {α β : Type} {br s t : List Char} {c : Char}

namespace Alike

variable {x y : Step α}

@[simp] theorem fault (c c' : Cause) (s t : List Char) :
    Alike br (faultAt c s : Step α) (faultAt c' t) := .malformed

theorem map (h : Alike br x y) (f : α → β) :
    Alike br (x.map fun r => (f r.1, r.2)) (y.map fun r => (f r.1, r.2)) := by
  cases h with
  | ok a rest => exact .ok (f a) rest
  | malformed => exact .malformed
  | tooManyDigits n => exact .tooManyDigits n

/-- A result that does not depend on the text, and the rests of both texts. -/
theorem of_result (x : Except Fault α) (rest : List Char) :
    Alike br (x.map fun a => (a, withBreaks br rest)) (x.map fun a => (a, rest)) := by
  match x with
  | .ok a => exact .ok a rest
  | .error (.malformed _ _) => exact .malformed
  | .error (.tooManyDigits n) => exact .tooManyDigits n

theorem bind {x y : Except Fault (α × List Char)}
    {f g : α × List Char → Except Fault (β × List Char)} (h : Alike br x y)
    (hfg : ∀ a rest, y = .ok (a, rest) → Alike br (f (a, withBreaks br rest)) (g (a, rest))) :
    Alike br (x >>= f : Except Fault (β × List Char)) (y >>= g : Except Fault (β × List Char)) := by
  cases h with
  | ok a rest => exact hfg a rest rfl
  | malformed => exact .malformed
  | tooManyDigits n => exact .tooManyDigits n

end Alike

/-! ## Characters that are no breaks -/

theorem exists_cons_withBreaks (hbr : IsBreak br) (s : List Char) :
    ∃ b t, withBreaks br ('\n' :: s) = b :: t ∧ (b = '\n' ∨ b = '\r') := by
  obtain ⟨b, more, rfl⟩ := List.exists_cons_of_ne_nil hbr.ne_nil
  exact ⟨b, _, rfl, hbr.break_of_mem b List.mem_cons_self⟩

theorem withBreaks_ne_nil (hbr : IsBreak br) (c : Char) (s : List Char) :
    withBreaks br (c :: s) ≠ [] := by
  by_cases hc : c = '\n'
  · subst hc
    exact List.append_ne_nil_of_left_ne_nil hbr.ne_nil _
  · rw [withBreaks_cons hc]
    exact List.cons_ne_nil _ _

/-- A text with other breaks begins with the same character, unless that is a break. -/
theorem begins_or_not (hbr : IsBreak br) (hfeed : c ≠ '\n') (hreturn : c ≠ '\r') (s : List Char) :
    (∃ t, s = c :: t ∧ withBreaks br s = c :: withBreaks br t) ∨
      (∀ t, s ≠ c :: t) ∧ ∀ t, withBreaks br s ≠ c :: t := by
  by_cases h : ∃ t, s = c :: t
  · obtain ⟨t, rfl⟩ := h
    exact .inl ⟨t, rfl, withBreaks_cons hfeed⟩
  · refine .inr ⟨fun t ht => h ⟨t, ht⟩, fun t ht => ?_⟩
    cases s with
    | nil => cases ht
    | cons d s =>
      by_cases hd : d = '\n'
      · subst hd
        obtain ⟨b, u, hb, hbreak⟩ := exists_cons_withBreaks hbr s
        cases hb.symm.trans ht
        exact hbreak.elim hfeed hreturn
      · rw [withBreaks_cons hd] at ht
        exact h ⟨s, by rw [(List.cons.inj ht).1]⟩

theorem skipSpace_withBreaks (hbr : IsBreak br) (s : List Char) :
    skipSpace (withBreaks br s) = withBreaks br (skipSpace s) := by
  induction s with
  | nil => rfl
  | cons c s ih =>
    by_cases hc : c = '\n'
    · subst hc
      have hspace : ∀ b ∈ br, isSpace b = true := by
        intro b hb
        rcases hbr.break_of_mem b hb with rfl | rfl <;> rfl
      have hskip : skipSpace ('\n' :: s) = skipSpace s := rfl
      rw [hskip, ← ih, withBreaks_newline, skipSpace, List.dropWhile_append_of_pos hspace]
      rfl
    · rw [withBreaks_cons hc]
      cases hspace : isSpace c with
      | true =>
        have hskip : ∀ t, skipSpace (c :: t) = skipSpace t := fun t =>
          List.dropWhile_cons_of_pos hspace
        rw [hskip, hskip, ih]
      | false =>
        have hskip : ∀ t, skipSpace (c :: t) = c :: t := fun t =>
          List.dropWhile_cons_of_neg (by simp [hspace])
        rw [hskip, hskip, withBreaks_cons hc]

theorem ne_newline_of_skipSpace (h : skipSpace s = c :: t) : c ≠ '\n' := by
  rintro rfl
  cases (dropWhile_eq_cons_iff.1 h).1

theorem length_withBreaks_le (br : List Char) (h : t <:+ s) :
    (withBreaks br t).length ≤ (withBreaks br s).length := by
  obtain ⟨front, rfl⟩ := h
  rw [withBreaks_append, List.length_append]
  exact Nat.le_add_left _ _

theorem length_withBreaks_lt (hbr : IsBreak br) (h : c :: t <:+ s) :
    (withBreaks br t).length < (withBreaks br s).length := by
  refine Nat.lt_of_lt_of_le ?_ (length_withBreaks_le br h)
  have hfirst : withBreaks br (c :: t) = withBreaks br [c] ++ withBreaks br t :=
    withBreaks_append [c] t
  have hpos := List.length_pos_iff.2 (withBreaks_ne_nil hbr c [])
  rw [hfirst, List.length_append]
  omega

/-- The next token of both texts is the same character, or both are at their ends. -/
theorem token_cases (hbr : IsBreak br) (s : List Char) :
    (skipSpace s = [] ∧ skipSpace (withBreaks br s) = []) ∨
      ∃ c t, skipSpace s = c :: t ∧ skipSpace (withBreaks br s) = c :: withBreaks br t := by
  rw [skipSpace_withBreaks hbr]
  cases h : skipSpace s with
  | nil => exact .inl ⟨rfl, rfl⟩
  | cons c t => exact .inr ⟨c, t, rfl, withBreaks_cons (ne_newline_of_skipSpace h)⟩

theorem shorter_of_token (hbr : IsBreak br) {rest : List Char} (h : skipSpace rest = c :: t)
    (hs : rest <:+ s) : skipSpace t <:+ s ∧ (skipSpace t).length < s.length ∧
      (withBreaks br (skipSpace t)).length < (withBreaks br s).length := by
  have htoken : c :: t <:+ s := (h ▸ skipSpace_suffix rest).trans hs
  have hskip := skipSpace_suffix t
  have hbreaks := length_withBreaks_le br hskip
  refine ⟨(hskip.trans (List.suffix_cons c t)).trans htoken, ?_,
    Nat.lt_of_le_of_lt hbreaks (length_withBreaks_lt hbr htoken)⟩
  exact Nat.lt_of_le_of_lt hskip.length_le (Nat.lt_of_succ_le htoken.length_le)

/-! ## Numbers -/

theorem asciiDigit?_break {b : Char} (h : b = '\n' ∨ b = '\r') : asciiDigit? b = none := by
  rcases h with rfl | rfl <;> rfl

theorem digits_withBreaks (hbr : IsBreak br) (s : List Char) :
    digits (withBreaks br s) = ((digits s).1, withBreaks br (digits s).2) := by
  induction s with
  | nil => rfl
  | cons c s ih =>
    by_cases hc : c = '\n'
    · subst hc
      obtain ⟨b, t, hb, hbreak⟩ := exists_cons_withBreaks hbr s
      have hend : digits ('\n' :: s) = ([], '\n' :: s) := rfl
      rw [hend, hb, digits, asciiDigit?_break hbreak]
    · rw [withBreaks_cons hc, digits, digits]
      cases asciiDigit? c with
      | none => simp [withBreaks_cons hc]
      | some d => simp [ih]

theorem splitSign_withBreaks (hbr : IsBreak br) (s : List Char) :
    splitSign (withBreaks br s) = ((splitSign s).1, withBreaks br (splitSign s).2) := by
  rcases begins_or_not hbr (c := '-') (by decide) (by decide) s with ⟨t, rfl, ht⟩ | ⟨hs, hs'⟩
  · rw [ht]
    rfl
  rcases begins_or_not hbr (c := '+') (by decide) (by decide) s with ⟨t, rfl, ht⟩ | ⟨hp, hp'⟩
  · rw [ht]
    rfl
  have hnone : ∀ u : List Char, (∀ t, u ≠ '-' :: t) → (∀ t, u ≠ '+' :: t) →
      splitSign u = (false, u) := by
    intro u hminus hplus
    unfold splitSign
    split
    next t => exact absurd rfl (hminus t)
    next t => exact absurd rfl (hplus t)
    next => rfl
  rw [hnone s hs hp, hnone _ hs' hp']

theorem fractionPart_withBreaks (hbr : IsBreak br) (s : List Char) :
    fractionPart (withBreaks br s) = ((fractionPart s).1, withBreaks br (fractionPart s).2) := by
  rcases begins_or_not hbr (c := '.') (by decide) (by decide) s with ⟨t, rfl, ht⟩ | ⟨hs, hs'⟩
  · rw [ht, fractionPart, fractionPart, digits_withBreaks hbr]
    simp only
    split
    · rw [ht]
    · rfl
  · have hnone : ∀ u : List Char, (∀ t, u ≠ '.' :: t) → fractionPart u = (none, u) := by
      intro u hu
      unfold fractionPart
      split
      next t => exact absurd rfl (hu t)
      next => rfl
    rw [hnone s hs, hnone _ hs']

theorem exponentPart_withBreaks (hbr : IsBreak br) (s : List Char) :
    exponentPart (withBreaks br s) = ((exponentPart s).1, withBreaks br (exponentPart s).2) := by
  cases s with
  | nil => rfl
  | cons c s =>
    by_cases hc : c = '\n'
    · subst hc
      obtain ⟨b, t, hb, hbreak⟩ := exists_cons_withBreaks hbr s
      have hend : exponentPart ('\n' :: s) = (none, '\n' :: s) := rfl
      rw [hend, hb]
      rcases hbreak with rfl | rfl <;> rfl
    · rw [withBreaks_cons hc, exponentPart, exponentPart, splitSign_withBreaks hbr]
      simp only [digits_withBreaks hbr]
      split
      next =>
        split
        · simp only [withBreaks_cons hc]
        · rfl
      next => simp only [withBreaks_cons hc]

theorem wholePart_withBreaks (hbr : IsBreak br) (s : List Char) :
    wholePart (withBreaks br s) = (wholePart s).map fun r => (r.1, withBreaks br r.2) := by
  rcases begins_or_not hbr (c := '0') (by decide) (by decide) s with ⟨t, rfl, ht⟩ | ⟨hs, hs'⟩
  · rw [ht]
    rfl
  · have hdigits : ∀ u : List Char, (∀ t, u ≠ '0' :: t) →
        wholePart u = if (digits u).1.isEmpty then none else some (digits u) := by
      intro u hu
      unfold wholePart
      split
      next t => exact absurd rfl (hu t)
      next => rfl
    rw [hdigits s hs, hdigits _ hs', digits_withBreaks hbr]
    split <;> rfl

theorem numeral?_withBreaks (hbr : IsBreak br) (s : List Char) :
    numeral? (withBreaks br s) = (numeral? s).map fun r => (r.1, withBreaks br r.2) := by
  -- What follows the sign, whatever the sign is.
  have hbody : ∀ (negative : Bool) (u : List Char),
      ((wholePart (withBreaks br u)).bind fun r =>
        some (Numeral.mk negative r.1 (fractionPart r.2).1 (exponentPart (fractionPart r.2).2).1,
          (exponentPart (fractionPart r.2).2).2)) =
      ((wholePart u).bind fun r =>
        some (Numeral.mk negative r.1 (fractionPart r.2).1 (exponentPart (fractionPart r.2).2).1,
          (exponentPart (fractionPart r.2).2).2)).map fun r => (r.1, withBreaks br r.2) := by
    intro negative u
    rw [wholePart_withBreaks hbr]
    cases wholePart u with
    | none => rfl
    | some r =>
      simp only [Option.map_some, Option.bind_some, fractionPart_withBreaks hbr,
        exponentPart_withBreaks hbr]
  rcases begins_or_not hbr (c := '-') (by decide) (by decide) s with ⟨t, rfl, ht⟩ | ⟨hs, hs'⟩
  · rw [ht]
    exact hbody true t
  · have hplain : ∀ u : List Char, (∀ t, u ≠ '-' :: t) → numeral? u =
        (wholePart u).bind fun r =>
          some (Numeral.mk false r.1 (fractionPart r.2).1 (exponentPart (fractionPart r.2).2).1,
            (exponentPart (fractionPart r.2).2).2) := by
      intro u hu
      unfold numeral?
      split
      next negative body hsign =>
        split at hsign
        next t => exact absurd rfl (hu t)
        next =>
          cases hsign
          rfl
    rw [hplain s hs, hplain _ hs']
    exact hbody false s

/-! ## Words -/

/-- A word without breaks stands in both texts, or in neither. -/
theorem isPrefixOf_withBreaks (hbr : IsBreak br) {w : List Char}
    (hw : ∀ c ∈ w, c ≠ '\n' ∧ c ≠ '\r') (s : List Char) :
    w.isPrefixOf (withBreaks br s) = w.isPrefixOf s ∧
      (w.isPrefixOf s = true →
        (withBreaks br s).drop w.length = withBreaks br (s.drop w.length)) := by
  induction w generalizing s with
  | nil => simp
  | cons c w ih =>
    obtain ⟨⟨hfeed, hreturn⟩, hw⟩ := List.forall_mem_cons.1 hw
    rcases begins_or_not hbr hfeed hreturn s with ⟨t, rfl, ht⟩ | ⟨hs, hs'⟩
    · rw [ht]
      simpa using ih hw t
    · have hnot : ∀ u : List Char, (∀ t, u ≠ c :: t) → (c :: w).isPrefixOf u = false := by
        intro u hu
        rw [← Bool.not_eq_true, List.isPrefixOf_iff_prefix]
        rintro ⟨t, rfl⟩
        exact hu _ rfl
      rw [hnot s hs, hnot _ hs']
      exact ⟨rfl, nofun⟩

theorem literal?_withBreaks (hbr : IsBreak br) (s : List Char) :
    literal? (withBreaks br s) = (literal? s).map fun r => (r.1, withBreaks br r.2) := by
  have hwords : ∀ l ∈ literals, ∀ c ∈ l.1, c ≠ '\n' ∧ c ≠ '\r' := by
    simp [literals]
  rw [literal?, literal?]
  revert hwords
  generalize literals = words
  intro hwords
  induction words with
  | nil => rfl
  | cons l ls ih =>
    obtain ⟨hl, hls⟩ := List.forall_mem_cons.1 hwords
    obtain ⟨hsame, hdrop⟩ := isPrefixOf_withBreaks hbr hl s
    rw [List.findSome?_cons, List.findSome?_cons, hsame]
    cases hp : l.1.isPrefixOf s with
    | true => simp [hdrop hp]
    | false => exact ih hls

/-! ## Strings -/

/-- The first hexadecimal digits of a text, if it begins with as many. -/
def takeHex : Nat → List Char → Option (List Nat × List Char)
  | 0, s => some ([], s)
  | _ + 1, [] => none
  | n + 1, c :: s => (hexDigit? c).bind fun d => (takeHex n s).map fun r => (d :: r.1, r.2)

theorem takeHex_withBreaks (hbr : IsBreak br) (n : Nat) (s : List Char) :
    takeHex n (withBreaks br s) = (takeHex n s).map fun r => (r.1, withBreaks br r.2) := by
  induction n generalizing s with
  | zero => rfl
  | succ n ih =>
    cases s with
    | nil => rfl
    | cons c s =>
      by_cases hc : c = '\n'
      · subst hc
        obtain ⟨b, t, hb, hbreak⟩ := exists_cons_withBreaks hbr s
        have hnone : takeHex (n + 1) ('\n' :: s) = none := rfl
        rw [hnone, hb]
        rcases hbreak with rfl | rfl <;> rfl
      · rw [withBreaks_cons hc, takeHex, takeHex, ih]
        cases hexDigit? c with
        | none => rfl
        | some d => cases takeHex n s <;> rfl

theorem takeHex_suffix {n : Nat} {ds : List Nat} (h : takeHex n s = some (ds, t)) : t <:+ s := by
  induction n generalizing s ds with
  | zero =>
    cases h
    exact List.suffix_rfl
  | succ n ih =>
    cases s with
    | nil => cases h
    | cons c s =>
      obtain ⟨d, -, hd⟩ := Option.bind_eq_some_iff.1 h
      obtain ⟨⟨more, rest⟩, hmore, hrest⟩ := Option.map_eq_some_iff.1 hd
      cases hrest
      exact (ih hmore).trans (List.suffix_cons c s)

theorem stringUnits_hex (start : Nat) (s : List Char) :
    stringUnits start ('\\' :: 'u' :: s) =
      match takeHex 4 s with
      | some (ds, e :: rest) =>
        (stringUnits start (e :: rest)).map fun r => (ofDigits 16 ds :: r.1, r.2)
      | _ => faultAt .unicodeEscape ('u' :: s) := by
  match s with
  | [] | [_] | [_, _] | [_, _, _] =>
    simp [stringUnits, takeHex]
  | [a, b, c, d] =>
    simp only [stringUnits, takeHex]
    cases hexDigit? a <;> cases hexDigit? b <;> cases hexDigit? c <;> cases hexDigit? d <;> rfl
  | a :: b :: c :: d :: e :: rest =>
    rw [stringUnits, hex4?]
    simp only [takeHex]
    cases hexDigit? a <;> cases hexDigit? b <;> cases hexDigit? c <;> cases hexDigit? d <;> simp

theorem stringUnits_letter (start : Nat) {s : List Char} (hu : c ≠ 'u') :
    stringUnits start ('\\' :: c :: s) =
      match simpleEscape? c with
      | none => faultAt .escape ('\\' :: c :: s)
      | some x => (stringUnits start s).map fun r => (x.toNat :: r.1, r.2) := by
  cases h : simpleEscape? c <;> simp [stringUnits, hu, h]

theorem stringUnits_other (start : Nat) {s : List Char} (hquote : c ≠ '"') (hescape : c ≠ '\\') :
    stringUnits start (c :: s) =
      if c.toNat < 0x20 then faultAt .controlCharacter (c :: s)
      else (stringUnits start s).map fun r => (c.toNat :: r.1, r.2) := by
  simp [stringUnits, hescape]

/-- Whether the rest of a string is read alike, behind quotes that may stand at different places. -/
def ReadsUnitsAlike (br : List Char) (start start' : Nat) (s : List Char) : Prop :=
  Alike br (stringUnits start' (withBreaks br s)) (stringUnits start s)

section Escapes

variable {start start' : Nat}

theorem alike_unicodeEscape (hbr : IsBreak br)
    (hrest : ∀ t, t <:+ s → ReadsUnitsAlike br start start' t) :
    Alike br (stringUnits start' ('\\' :: 'u' :: withBreaks br s))
      (stringUnits start ('\\' :: 'u' :: s)) := by
  rw [stringUnits_hex, stringUnits_hex, takeHex_withBreaks hbr]
  rcases hhex : takeHex 4 s with _ | ⟨ds, _ | ⟨c, rest⟩⟩
  · exact .malformed
  · exact .malformed
  · have hmore := hrest (c :: rest) (takeHex_suffix hhex)
    obtain ⟨b, more, hb⟩ := List.exists_cons_of_ne_nil (withBreaks_ne_nil hbr c rest)
    rw [ReadsUnitsAlike, hb] at hmore
    simp only [Option.map_some, hb]
    exact hmore.map fun units => ofDigits 16 ds :: units

/-- An escape is read alike, for no break belongs to one. -/
theorem alike_escape (hbr : IsBreak br)
    (hrest : ∀ t, t <:+ s → ReadsUnitsAlike br start start' t) :
    Alike br (stringUnits start' ('\\' :: withBreaks br s)) (stringUnits start ('\\' :: s)) := by
  rcases begins_or_not hbr (c := 'u') (by decide) (by decide) s with ⟨t, rfl, ht⟩ | ⟨hu, -⟩
  · rw [ht]
    exact alike_unicodeEscape hbr fun u hu => hrest u (hu.trans (List.suffix_cons _ _))
  · cases s with
    | nil => exact .malformed
    | cons c t =>
      by_cases hc : c = '\n'
      · subst hc
        obtain ⟨b, u, hb, hbreak⟩ := exists_cons_withBreaks hbr t
        rw [hb]
        rcases hbreak with rfl | rfl <;> exact .malformed
      · have hletter : c ≠ 'u' := fun h => hu t (h ▸ rfl)
        rw [withBreaks_cons hc, stringUnits_letter _ hletter, stringUnits_letter _ hletter]
        cases simpleEscape? c with
        | none => exact .malformed
        | some x => exact (hrest t (List.suffix_cons _ _)).map fun units => x.toNat :: units

end Escapes

/-- **No string holds a break**, so strings are read alike. -/
theorem alike_stringUnits (hbr : IsBreak br) (start start' : Nat) (s : List Char) :
    ReadsUnitsAlike br start start' s := by
  induction hn : s.length using Nat.strong_induction_on generalizing s with
  | _ n ih =>
    subst hn
    have hrest : ∀ c t u, s = c :: t → u <:+ t → ReadsUnitsAlike br start start' u := by
      rintro c t u rfl hu
      exact ih u.length (Nat.lt_succ_of_le hu.length_le) u rfl
    rw [ReadsUnitsAlike]
    rcases begins_or_not hbr (c := '"') (by decide) (by decide) s with ⟨t, rfl, ht⟩ | ⟨hq, -⟩
    · rw [ht, stringUnits, stringUnits]
      exact .ok [] t
    rcases begins_or_not hbr (c := '\\') (by decide) (by decide) s with ⟨t, rfl, ht⟩ | ⟨he, -⟩
    · rw [ht]
      exact alike_escape hbr fun u => hrest _ t u rfl
    · cases s with
      | nil => exact .malformed
      | cons c t =>
        by_cases hc : c = '\n'
        · subst hc
          obtain ⟨b, u, hb, hbreak⟩ := exists_cons_withBreaks hbr t
          rw [hb]
          rcases hbreak with rfl | rfl <;> exact .malformed
        · have hquote : c ≠ '"' := fun h => hq t (h ▸ rfl)
          have hescape : c ≠ '\\' := fun h => he t (h ▸ rfl)
          rw [withBreaks_cons hc, stringUnits_other _ hquote hescape,
            stringUnits_other _ hquote hescape]
          split
          · exact .malformed
          · exact (hrest c t t rfl List.suffix_rfl).map fun units => c.toNat :: units

theorem alike_readString (hbr : IsBreak br) (s : List Char) :
    Alike br (readString (withBreaks br s)) (readString s) :=
  (alike_stringUnits hbr _ _ s).map fun units => String.ofList (joinHalves units)

/-! ## Values -/

section Parts

variable {element element' : List Char → Step Value} {body : List Char} {fuel fuel' : Nat}

/-- What reads each element alike reads the elements of an array alike, if neither bound on their
number is reached. -/
theorem alike_elements (hbr : IsBreak br) (hreads : ∀ t, Reads t (element t))
    (helement : ∀ t, t <:+ body → Alike br (element' (withBreaks br t)) (element t))
    (hs : s <:+ body) (hfuel : s.length < fuel) (hfuel' : (withBreaks br s).length < fuel') :
    Alike br (elements element' fuel' (withBreaks br s)) (elements element fuel s) := by
  induction fuel generalizing fuel' s with
  | zero => exact absurd hfuel (Nat.not_lt_zero _)
  | succ fuel ih =>
    obtain ⟨fuel', rfl⟩ : ∃ n, fuel' = n + 1 := Nat.exists_eq_succ_of_ne_zero (by omega)
    refine (helement s hs).bind fun v rest hrest => ?_
    have hsuffix : rest <:+ s := by
      have hreads := hreads s
      rwa [hrest] at hreads
    simp only
    rcases token_cases hbr rest with ⟨hend, hend'⟩ | ⟨c, t, htoken, htoken'⟩
    · rw [hend, hend']
      exact .malformed
    rw [htoken, htoken']
    by_cases hclose : c = ']'
    · subst hclose
      exact .ok [v] t
    by_cases hcomma : c = ','
    · subst hcomma
      obtain ⟨hnext, hshort, hshort'⟩ := shorter_of_token hbr htoken hsuffix
      have hmore : Alike br (elements element' fuel' (withBreaks br (skipSpace t)))
          (elements element fuel (skipSpace t)) := ih (hnext.trans hs) (by omega) (by omega)
      rw [← skipSpace_withBreaks hbr] at hmore
      exact hmore.bind fun vs rest' _ => .ok (v :: vs) rest'
    · simp [hclose, hcomma]

theorem alike_members (hbr : IsBreak br) (hreads : ∀ t, Reads t (element t))
    (helement : ∀ t, t <:+ body → Alike br (element' (withBreaks br t)) (element t))
    (hs : s <:+ body) (hfuel : s.length < fuel) (hfuel' : (withBreaks br s).length < fuel') :
    Alike br (members element' fuel' (withBreaks br s)) (members element fuel s) := by
  induction fuel generalizing fuel' s with
  | zero => exact absurd hfuel (Nat.not_lt_zero _)
  | succ fuel ih =>
    obtain ⟨fuel', rfl⟩ : ∃ n, fuel' = n + 1 := Nat.exists_eq_succ_of_ne_zero (by omega)
    rcases begins_or_not hbr (c := '"') (by decide) (by decide) s with ⟨r, rfl, hr⟩ | ⟨hq, hq'⟩
    · rw [hr]
      unfold members
      refine (alike_readString hbr r).bind fun name rest hrest => ?_
      have hname : rest <:+ '"' :: r := by
        have hreads := reads_readString r
        rw [hrest] at hreads
        exact List.IsSuffix.trans hreads (List.suffix_cons _ _)
      simp only
      rcases token_cases hbr rest with ⟨hend, hend'⟩ | ⟨c, t, htoken, htoken'⟩
      · rw [hend, hend']
        exact .malformed
      rw [htoken, htoken']
      by_cases hcolon : c = ':'
      · subst hcolon
        obtain ⟨hvalue, -, -⟩ := shorter_of_token hbr htoken hname
        have hmember := helement _ (hvalue.trans hs)
        rw [← skipSpace_withBreaks hbr] at hmember
        refine hmember.bind fun v rest hrest => ?_
        have hsuffix : rest <:+ '"' :: r := by
          have hreads := hreads (skipSpace t)
          rw [hrest] at hreads
          exact List.IsSuffix.trans hreads hvalue
        simp only
        rcases token_cases hbr rest with ⟨hend, hend'⟩ | ⟨c, u, htoken, htoken'⟩
        · rw [hend, hend']
          exact .malformed
        rw [htoken, htoken']
        by_cases hclose : c = '\x7d'
        · subst hclose
          exact .ok [(name, v)] u
        by_cases hcomma : c = ','
        · subst hcomma
          obtain ⟨hnext, hshort, hshort'⟩ := shorter_of_token hbr htoken hsuffix
          have hmore : Alike br (members element' fuel' (withBreaks br (skipSpace u)))
              (members element fuel (skipSpace u)) := ih (hnext.trans hs) (by omega) (by omega)
          rw [← skipSpace_withBreaks hbr] at hmore
          exact hmore.bind fun ms rest' _ => .ok ((name, v) :: ms) rest'
        · simp [hclose, hcomma]
      · simp [hcolon]
    · have hfault : ∀ (e : List Char → Step Value) (n : Nat) (u : List Char),
          (∀ t, u ≠ '"' :: t) → members e (n + 1) u = faultAt .propertyName u := by
        intro e n u hu
        unfold members
        split
        next t => exact absurd rfl (hu t)
        next => rfl
      rw [hfault _ _ s hq, hfault _ _ _ hq']
      exact .malformed

end Parts

theorem readValue_nil (depth : Nat) : readValue depth [] = faultAt .value [] := by
  cases depth <;> rfl

theorem readValue_scalar (depth : Nat) (hquote : ∀ t, s ≠ '"' :: t) (hbracket : ∀ t, s ≠ '[' :: t)
    (hbrace : ∀ t, s ≠ '\x7b' :: t) :
    readValue (depth + 1) s =
      match literal? s with
      | some r => .ok r
      | none =>
        match numeral? s with
        | some (n, rest) => n.value.map fun v => (v, rest)
        | none => faultAt .value s := by
  unfold readValue
  split
  next t => exact absurd rfl (hquote t)
  next t => exact absurd rfl (hbracket t)
  next t => exact absurd rfl (hbrace t)
  next => rfl

section Brackets

variable {depth depth' : Nat}

/-- An array is read alike if what is within its brackets is. -/
theorem alike_array (hbr : IsBreak br)
    (hwithin : ∀ u, u <:+ skipSpace s →
      Alike br (readValue depth' (withBreaks br u)) (readValue depth u)) :
    Alike br (readValue (depth' + 1) ('[' :: withBreaks br s))
      (readValue (depth + 1) ('[' :: s)) := by
  rcases begins_or_not hbr (c := ']') (by decide) (by decide) (skipSpace s) with
    ⟨u, hclose, hclose'⟩ | ⟨hopen, hopen'⟩
  · rw [← skipSpace_withBreaks hbr] at hclose'
    rw [readValue, readValue, hclose, hclose']
    exact .ok (Value.array []) u
  · rw [← skipSpace_withBreaks hbr] at hopen'
    rw [readValue_bracket hopen, readValue_bracket hopen', skipSpace_withBreaks hbr]
    exact (alike_elements hbr (reads_readValue depth) hwithin List.suffix_rfl
      (Nat.lt_succ_self _) (Nat.lt_succ_self _)).map Value.array

theorem alike_object (hbr : IsBreak br)
    (hwithin : ∀ u, u <:+ skipSpace s →
      Alike br (readValue depth' (withBreaks br u)) (readValue depth u)) :
    Alike br (readValue (depth' + 1) ('\x7b' :: withBreaks br s))
      (readValue (depth + 1) ('\x7b' :: s)) := by
  rcases begins_or_not hbr (c := '\x7d') (by decide) (by decide) (skipSpace s) with
    ⟨u, hclose, hclose'⟩ | ⟨hopen, hopen'⟩
  · rw [← skipSpace_withBreaks hbr] at hclose'
    rw [readValue, readValue, hclose, hclose']
    exact .ok (Value.object []) u
  · rw [← skipSpace_withBreaks hbr] at hopen'
    rw [readValue_brace hopen, readValue_brace hopen', skipSpace_withBreaks hbr]
    exact (alike_members hbr (reads_readValue depth) hwithin List.suffix_rfl
      (Nat.lt_succ_self _) (Nat.lt_succ_self _)).map objectOf

end Brackets

/-- **Values are read alike**, if neither bound on how deep they are nested is reached. -/
theorem alike_readValue (hbr : IsBreak br) {depth depth' : Nat} (hdepth : s.length ≤ depth)
    (hdepth' : (withBreaks br s).length ≤ depth') :
    Alike br (readValue depth' (withBreaks br s)) (readValue depth s) := by
  induction depth generalizing depth' s with
  | zero =>
    cases List.length_eq_zero_iff.1 (Nat.le_zero.1 hdepth)
    rw [withBreaks_nil, readValue_nil, readValue_nil]
    exact .malformed
  | succ depth ih =>
    cases s with
    | nil =>
      rw [withBreaks_nil, readValue_nil, readValue_nil]
      exact .malformed
    | cons c s =>
      have hlt := length_withBreaks_lt hbr (List.suffix_refl (c :: s))
      obtain ⟨depth', rfl⟩ : ∃ n, depth' = n + 1 := Nat.exists_eq_succ_of_ne_zero (by omega)
      -- What is within brackets is shorter, in both texts.
      have hwithin : ∀ u, u <:+ skipSpace s →
          Alike br (readValue depth' (withBreaks br u)) (readValue depth u) := by
        intro u hu
        have hsuffix := hu.trans (skipSpace_suffix s)
        have hle := hsuffix.length_le
        have hle' := length_withBreaks_le br hsuffix
        rw [List.length_cons] at hdepth
        exact ih (by omega) (by omega)
      rcases begins_or_not hbr (c := '"') (by decide) (by decide) (c :: s) with
        ⟨t, ht, ht'⟩ | ⟨hquote, hquote'⟩
      · rw [ht', ht]
        exact (alike_readString hbr t).map Value.string
      rcases begins_or_not hbr (c := '[') (by decide) (by decide) (c :: s) with
        ⟨t, ht, ht'⟩ | ⟨hbracket, hbracket'⟩
      · rw [ht', ht]
        cases ht
        exact alike_array hbr hwithin
      rcases begins_or_not hbr (c := '\x7b') (by decide) (by decide) (c :: s) with
        ⟨t, ht, ht'⟩ | ⟨hbrace, hbrace'⟩
      · rw [ht', ht]
        cases ht
        exact alike_object hbr hwithin
      rw [readValue_scalar _ hquote hbracket hbrace, readValue_scalar _ hquote' hbracket' hbrace',
        literal?_withBreaks hbr, numeral?_withBreaks hbr]
      cases literal? (c :: s) with
      | some r => exact .ok r.1 r.2
      | none =>
        cases numeral? (c :: s) with
        | some r => exact .of_result r.1.value r.2
        | none => exact .malformed

/-! ## Documents -/

/-- Whether two readings of documents come to the same: to one value, to no document, or to as many
digits too many. Where a text is malformed may differ. -/
inductive EndsAlike : Except ReadError Value → Except ReadError Value → Prop where
  | ok (v : Value) : EndsAlike (.ok v) (.ok v)
  | malformed {c c' : Cause} {p p' : Position} :
    EndsAlike (.error (.malformed c p)) (.error (.malformed c' p'))
  | tooManyDigits (n : Nat) : EndsAlike (.error (.tooManyDigits n)) (.error (.tooManyDigits n))

theorem readText_unmarked (h : ∀ t, s ≠ '\uFEFF' :: t) :
    readText s = (readValue (s.length + 1) (skipSpace s)).bind fun r =>
      match skipSpace r.2 with
      | [] => .ok r.1
      | other => .error (.malformed .extraData other.length) := by
  unfold readText
  split
  next t => exact absurd rfl (h t)
  next => rfl

/-- **A document is read alike whatever its line breaks are.** -/
theorem read_endLinesWith (hbr : IsBreak br) (text : String) :
    EndsAlike (read (endLinesWith br text)) (read text) := by
  rw [read, read, toList_endLinesWith]
  generalize text.toList = s
  rcases begins_or_not hbr (c := '\uFEFF') (by decide) (by decide) s with
    ⟨t, rfl, ht⟩ | ⟨hmark, hmark'⟩
  · rw [ht]
    exact .malformed
  rw [readText_unmarked hmark, readText_unmarked hmark']
  have hsuffix := skipSpace_suffix s
  have hvalue : Alike br
      (readValue ((withBreaks br s).length + 1) (skipSpace (withBreaks br s)))
      (readValue (s.length + 1) (skipSpace s)) := by
    rw [skipSpace_withBreaks hbr]
    exact alike_readValue hbr (Nat.le_succ_of_le hsuffix.length_le)
      (Nat.le_succ_of_le (length_withBreaks_le br hsuffix))
  revert hvalue
  generalize readValue _ (skipSpace (withBreaks br s)) = x
  generalize readValue _ (skipSpace s) = y
  intro hvalue
  cases hvalue with
  | malformed => exact .malformed
  | tooManyDigits n => exact .tooManyDigits n
  | ok v rest =>
    simp only [Except.bind]
    rcases token_cases hbr rest with ⟨hend, hend'⟩ | ⟨c, t, htoken, htoken'⟩
    · rw [hend, hend']
      exact .ok v
    · rw [htoken, htoken']
      exact .malformed

end Fingerprint.Json
