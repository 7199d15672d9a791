/-
The texts of single values, read back as values: strings between quotes, truth
values and positive integers. `Denotes text v` says so of a text that a blank
or the end of its line follows. A positive integer is read back if it has no
more digits than a document may hold; its text is never taken for a date, a
time or a number of another base.
-/
import Fingerprint.Proofs.Toml.QuotedText
import Fingerprint.Toml.Values

namespace Fingerprint.Toml

open Text Decimal Calendar

/-- A character at which a value on a line ends. -/
def IsStop (c : Char) : Prop := c = ' ' ∨ c = '\n'

/-- A text on one line that is read as a value that is neither an array nor a table. -/
structure Denotes (text : List Char) (v : Value) : Prop where
  read : ∀ {c : Char}, IsStop c → ∀ (depth : Nat) (rest : List Char),
    readValue (depth + 1) (text ++ c :: rest) = .ok (v, c :: rest)
  start : ∀ rest, skipSpace (text ++ rest) = text ++ rest
  plain : IsPlain text
  scalar : v.isNest = false

theorem readValue_scalar {c : Char} (hb : c ≠ '[') (hc : c ≠ '\x7b') (depth : Nat) (s : List Char) :
    readValue (depth + 1) (c :: s) = readScalar (c :: s) := by
  rw [readValue.eq_def]
  split
  next h => cases h
  next h =>
    split
    next he => cases he; exact absurd rfl hb
    next he => cases he; exact absurd rfl hc
    next => rfl

theorem stringHere?_basic {s : List Char} (h : ∀ t, s ≠ '"' :: '"' :: t) :
    stringHere? ('"' :: s) = some (basicTail s) := by
  unfold stringHere?
  split
  next t he => exact absurd (List.cons.inj he).2 (h t)
  next he => cases he; rfl
  next he => cases he
  next he => cases he
  next _ hno _ _ => exact absurd rfl (hno s)

theorem escapedChar_head (c : Char) : ∃ d s, escapedChar c = d :: s ∧ d ≠ '"' := by
  rcases escapedChar_cases c with ⟨x, he, -⟩ | ⟨-, he⟩ | ⟨he, hq, -, -⟩
  · exact ⟨'\\', [x], he, by decide⟩
  · exact ⟨'\\', _, he, by decide⟩
  · exact ⟨c, [], he, hq⟩

/-- A quoted string is read to its closing quote, unless it is empty and one more quote follows. -/
theorem stringHere?_quote_of_nil {s rest : List Char} (h : s = [] → ∀ t, rest ≠ '"' :: t) :
    stringHere? (quote s ++ rest) = some (.ok (s, rest)) := by
  have hq : quote s ++ rest = '"' :: (s.flatMap escapedChar ++ '"' :: rest) := by
    simp [quote]
  rw [hq, stringHere?_basic, basicTail_quoted]
  intro t he
  cases s with
  | nil => exact h rfl t (List.cons.inj he).2
  | cons d s =>
    obtain ⟨e, r, hd, hne⟩ := escapedChar_head d
    rw [List.flatMap_cons, hd] at he
    exact hne (List.cons.inj he).1

theorem stringHere?_quote (s : List Char) {rest : List Char} (hr : ∀ t, rest ≠ '"' :: t) :
    stringHere? (quote s ++ rest) = some (.ok (s, rest)) := stringHere?_quote_of_nil fun _ => hr

theorem denotes_quote (s : String) : Denotes (quote s.toList) (.string s) where
  read {c} hc depth rest := by
    have hread : readScalar (quote s.toList ++ c :: rest) = .ok (.string s, c :: rest) := by
      have hend : ∀ t, c :: rest ≠ '"' :: t := by
        rintro t he
        rcases hc with rfl | rfl <;> cases he
      rw [readScalar, stringHere?_quote _ hend]
      simp [Except.map]
    exact (readValue_scalar (by decide) (by decide) depth _).trans hread
  start _ := rfl
  plain := isPlain_quote s.toList
  scalar := rfl

theorem denotes_bool (b : Bool) : Denotes (if b then "true".toList else "false".toList) (.bool b) := by
  cases b
  · exact ⟨fun _ _ _ => rfl, fun _ => rfl, by decide, rfl⟩
  · exact ⟨fun _ _ _ => rfl, fun _ => rfl, by decide, rfl⟩

theorem toNat_of_isDigit {c : Char} (h : c.isDigit = true) : 48 ≤ c.toNat ∧ c.toNat ≤ 57 := by
  simp only [Char.isDigit, Bool.and_eq_true, decide_eq_true_eq, ge_iff_le,
    UInt32.le_iff_toNat_le] at h
  exact h

theorem isBareChar_of_isDigit {c : Char} (h : c.isDigit = true) : isBareChar c = true := by
  simp [isBareChar, Char.isAlphanum, h]

theorem asciiDigit?_of_isDigit {c : Char} (h : c.isDigit = true) :
    asciiDigit? c = some (c.toNat - '0'.toNat) := by
  have hc := toNat_of_isDigit h
  exact if_pos ⟨hc.1, hc.2⟩

theorem asciiDigit?_of_isStop {c : Char} (h : IsStop c) : asciiDigit? c = none := by
  rcases h with rfl | rfl <;> decide

theorem ne_of_isDigit {c x : Char} (h : c.isDigit = true) (hx : x.isDigit = false) : c ≠ x := by
  rintro rfl
  exact absurd h (by simp [hx])

/-- The values of digits. -/
def digitValues (ds : List Char) : List Nat := ds.map fun d => d.toNat - '0'.toNat

theorem moreDigits_append {ds : List Char} (hd : ∀ d ∈ ds, d.isDigit = true) {c : Char}
    (hc : IsStop c) (rest : List Char) :
    moreDigits asciiDigit? (ds ++ c :: rest) = (digitValues ds, c :: rest) := by
  induction ds with
  | nil =>
    rcases hc with rfl | rfl <;> rfl
  | cons d ds ih =>
    have hdig := hd d (by simp)
    have ih := ih fun x hx => hd x (by simp [hx])
    rw [List.cons_append, moreDigits.eq_def]
    split
    next he => cases he
    next he => exact absurd (List.cons.inj he).1 (ne_of_isDigit hdig (by decide))
    next he =>
      cases he
      simp only [asciiDigit?_of_isDigit hdig, ih, digitValues, List.map_cons]

theorem ofDigits_natText (n : Nat) : ofDigits 10 (digitValues (natText n)) = n := by
  have hfold : ofDigits 10 (digitValues (natText n)) = Nat.ofDigitChars 10 (natText n) 0 := by
    rw [ofDigits, digitValues, List.foldl_map, Nat.ofDigitChars_eq_foldl]
    simp only [Nat.mul_comm]
  rw [hfold]
  exact Nat.ofDigitChars_ten_toDigits

theorem isDigit_of_mem_natText {n : Nat} {c : Char} (h : c ∈ natText n) : c.isDigit = true :=
  Nat.isDigit_of_mem_toDigits (by decide) (by decide) h

theorem natText_head {n : Nat} (h : 0 < n) : ∃ d ds, natText n = d :: ds ∧ d ≠ '0' := by
  induction n using Nat.strongRecOn with
  | ind n ih =>
    by_cases hn : n < 10
    · refine ⟨n.digitChar, [], Nat.toDigits_of_lt_base hn, ?_⟩
      rw [ne_eq, Nat.digitChar_eq_zero]
      omega
    · obtain ⟨d, ds, hd, hne⟩ := ih (n / 10) (by omega) (by omega)
      have hstep : natText n = natText (n / 10) ++ [(n % 10).digitChar] :=
        Nat.toDigits_of_base_le (by decide) (by omega)
      exact ⟨d, ds ++ [(n % 10).digitChar], by rw [hstep, hd, List.cons_append], hne⟩

theorem mapM_asciiDigit? {ds : List Char} (hd : ∀ d ∈ ds, d.isDigit = true) :
    ds.mapM asciiDigit? = some (digitValues ds) := by
  induction ds with
  | nil => rfl
  | cons d ds ih =>
    simp [digitValues, asciiDigit?_of_isDigit (hd d (by simp)), ih fun x hx => hd x (by simp [hx])]

theorem mapM_asciiDigit?_of_mem {s : List Char} {c : Char} (hc : asciiDigit? c = none) (h : c ∈ s) :
    s.mapM asciiDigit? = none := by
  induction s with
  | nil => cases h
  | cons d s ih =>
    rw [List.mapM_cons]
    rcases List.mem_cons.1 h with rfl | h
    · rw [hc]; rfl
    · rw [ih h]; cases asciiDigit? d <;> rfl

/-- Of digits and what ends them, a number of fixed width takes digits only. -/
theorem fixedNumber?_digits {ds : List Char} (hd : ∀ d ∈ ds, d.isDigit = true) {c : Char}
    (hc : IsStop c) (rest : List Char) {w n : Nat} {s : List Char}
    (h : fixedNumber? w (ds ++ c :: rest) = some (n, s)) :
    ∃ ds', (∀ d ∈ ds', d.isDigit = true) ∧ s = ds' ++ c :: rest := by
  by_cases hw : w ≤ ds.length
  · refine ⟨ds.drop w, fun d hm => hd d (List.mem_of_mem_drop hm), ?_⟩
    have htake := mapM_asciiDigit? fun d (hm : d ∈ ds.take w) => hd d (List.mem_of_mem_take hm)
    rw [fixedNumber?, List.take_append_of_le_length hw, htake] at h
    simp only [Option.bind_eq_bind, Option.bind_some, digitValues, List.length_map, List.length_take,
      Nat.min_eq_left hw, if_true, Option.pure_def, Option.some.injEq, Prod.mk.injEq] at h
    rw [← h.2, List.drop_append_of_le_length hw]
  · have hm : c ∈ (ds ++ c :: rest).take w := by
      obtain ⟨k, hk⟩ : ∃ k, w - ds.length = k + 1 := ⟨w - ds.length - 1, by omega⟩
      simp [List.take_append, hk]
    rw [fixedNumber?, mapM_asciiDigit?_of_mem (asciiDigit?_of_isStop hc) hm] at h
    cases h

theorem char?_digits {ds : List Char} (hd : ∀ d ∈ ds, d.isDigit = true) {c x : Char}
    (hc : c ≠ x) (hx : x.isDigit = false) (rest : List Char) : char? x (ds ++ c :: rest) = none := by
  cases ds with
  | nil => exact if_neg hc
  | cons d ds => exact if_neg (ne_of_isDigit (hd d (by simp)) hx)

theorem dateHere?_digits {ds : List Char} (hd : ∀ d ∈ ds, d.isDigit = true) {c : Char}
    (hc : IsStop c) (rest : List Char) : dateHere? (ds ++ c :: rest) = none := by
  have hne : c ≠ '-' := by rcases hc with rfl | rfl <;> decide
  unfold dateHere?
  cases h : fixedNumber? 4 (ds ++ c :: rest) with
  | none => rfl
  | some r =>
    obtain ⟨ds', hd', hs⟩ := fixedNumber?_digits hd hc rest h
    simp [hs, char?_digits hd' hne (by decide)]

theorem timeHere?_digits {ds : List Char} (hd : ∀ d ∈ ds, d.isDigit = true) {c : Char}
    (hc : IsStop c) (rest : List Char) : timeHere? (ds ++ c :: rest) = none := by
  have hne : c ≠ ':' := by rcases hc with rfl | rfl <;> decide
  unfold timeHere? twoDigitNumber?
  cases h : fixedNumber? 2 (ds ++ c :: rest) with
  | none => rfl
  | some r =>
    obtain ⟨ds', hd', hs⟩ := fixedNumber?_digits hd hc rest h
    by_cases hr : r.1 ≤ 23
    · simp [hr, hs, char?_digits hd' hne (by decide)]
    · simp [hr]

theorem momentHere?_digits {ds : List Char} (hd : ∀ d ∈ ds, d.isDigit = true) {c : Char}
    (hc : IsStop c) (rest : List Char) : momentHere? (ds ++ c :: rest) = none := by
  rw [momentHere?, dateHere?_digits hd hc, timeHere?_digits hd hc]
  rfl

theorem stringHere?_digit {d : Char} (hd : d.isDigit = true) (s : List Char) :
    stringHere? (d :: s) = none := by
  unfold stringHere?
  split <;> first | rfl | (next he => cases he; exact absurd hd (by decide))

theorem booleanHere?_digit {d : Char} (hd : d.isDigit = true) (s : List Char) :
    booleanHere? (d :: s) = none := by
  unfold booleanHere?
  split <;> first | rfl | (next he => cases he; exact absurd hd (by decide))

theorem basedHere?_of_ne {d : Char} (hd : d ≠ '0') (s : List Char) : basedHere? (d :: s) = none := by
  unfold basedHere?
  split <;> first | rfl | (next he => cases he; exact absurd rfl hd)

theorem splitSign_digit {d : Char} (hd : d.isDigit = true) (s : List Char) :
    splitSign (d :: s) = (false, d :: s) := by
  unfold splitSign
  split <;> first | rfl | (next he => cases he; exact absurd hd (by decide))

theorem numberHere?_digits {d : Char} {ds : List Char} (hz : d ≠ '0')
    (hd : ∀ x ∈ d :: ds, x.isDigit = true) {c : Char} (hc : IsStop c) (rest : List Char) :
    numberHere? (d :: ds ++ c :: rest) =
      some ((decimalValue false (digitValues (d :: ds)) none none).map fun v => (v, c :: rest)) := by
  have hdig := hd d (by simp)
  have hds : ∀ x ∈ ds, x.isDigit = true := fun x hx => hd x (by simp [hx])
  have hmore := moreDigits_append hds hc rest
  have hwhole : wholeHere? (d :: (ds ++ c :: rest)) =
      some (digitValues (d :: ds), c :: rest) := by
    unfold wholeHere?
    split
    next he => cases he; exact absurd rfl hz
    next => simp [digitsHere?, digitValues, asciiDigit?_of_isDigit hdig, hmore]
  have hfrac : fractionHere (c :: rest) = (none, c :: rest) := by
    rcases hc with rfl | rfl <;> rfl
  have hexp : exponentHere (c :: rest) = (none, c :: rest) := by
    rcases hc with rfl | rfl <;> rfl
  rw [numberHere?, List.cons_append, basedHere?_of_ne hz]
  simp only [splitSign_digit hdig, hwhole, Option.map_some, hfrac, hexp]

/-- Digits without a zero in front are read as a number, and as nothing else. -/
theorem readValue_digits {d : Char} {ds : List Char} (hz : d ≠ '0')
    (hd : ∀ x ∈ d :: ds, x.isDigit = true) {c : Char} (hc : IsStop c) (depth : Nat)
    (rest : List Char) : readValue (depth + 1) (d :: ds ++ c :: rest) =
      (decimalValue false (digitValues (d :: ds)) none none).map fun v => (v, c :: rest) := by
  have hdig := hd d (by simp)
  have hmoment := momentHere?_digits hd hc rest
  have hnumber := numberHere?_digits hz hd hc rest
  rw [List.cons_append] at hmoment hnumber ⊢
  rw [readValue_scalar (ne_of_isDigit hdig (by decide)) (ne_of_isDigit hdig (by decide)),
    readScalar, stringHere?_digit hdig, booleanHere?_digit hdig, hmoment, hnumber]

theorem length_digitValues (ds : List Char) : (digitValues ds).length = ds.length :=
  List.length_map _

/-- **A positive integer is read back** if it has no more digits than an integer may have. -/
theorem denotes_natText {n : Nat} (h : 0 < n) (hl : (natText n).length ≤ digitLimit) :
    Denotes (natText n) (.int n) := by
  obtain ⟨d, ds, hn, hz⟩ := natText_head h
  have hdigits : ∀ x ∈ d :: ds, x.isDigit = true := fun x hx => isDigit_of_mem_natText (hn ▸ hx)
  have hd := hdigits d (by simp)
  have hval := ofDigits_natText n
  rw [hn] at hl hval ⊢
  refine ⟨fun {c} hc depth rest => ?_, fun rest => ?_, fun x hx => ?_, rfl⟩
  · have hshort : ¬ digitLimit < (digitValues (d :: ds)).length := by
      rw [length_digitValues]
      omega
    rw [readValue_digits hz hdigits hc, decimalValue, if_neg hshort, hval]
    rfl
  · exact skipSpace_cons (isSpace_of_isBareChar (isBareChar_of_isDigit hd)) _
  · exact isControl_of_isBareChar (isBareChar_of_isDigit (hdigits x hx))

theorem readValue_longDigits {d : Char} {ds : List Char} (hz : d ≠ '0')
    (hd : ∀ x ∈ d :: ds, x.isDigit = true) (hlong : digitLimit < (d :: ds).length) {c : Char}
    (hc : IsStop c) (depth : Nat) (rest : List Char) :
    readValue (depth + 1) (d :: ds ++ c :: rest) = .error (.tooManyDigits (d :: ds).length) := by
  rw [readValue_digits hz hd hc, decimalValue, length_digitValues, if_pos hlong]
  rfl

end Fingerprint.Toml
