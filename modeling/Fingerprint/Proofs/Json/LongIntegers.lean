/-
Why reading JSON stops. A reader either leaves an end of its text, or says
what the text violates, or stops at an integer of too many digits, and then
these digits stand in the text one after another (`Reads`). This holds of each
reader (`reads_readValue`), so a document without a long run of digits is read
or malformed (`holdsLongRun_of_read`).
-/
import Fingerprint.Json.Reader

namespace Fingerprint.Json

open Text Decimal

/-- Whether a text holds this many digits in a row, too many for an integer. -/
def HoldsLongRun (s : List Char) (n : Nat) : Prop :=
  ∃ run, run <:+: s ∧ run.length = n ∧ digitLimit < n ∧ ∀ c ∈ run, (asciiDigit? c).isSome = true

/-- Whether a reader's answer is one that a text can give: an end of the text is left, or it is
malformed, or it holds too many digits. -/
def Reads {α : Type} (s : List Char) : Step α → Prop
  | .ok r => r.2 <:+ s
  | .error (.malformed _ _) => True
  | .error (.tooManyDigits n) => HoldsLongRun s n

variable {α β : Type} {s rest : List Char}

theorem HoldsLongRun.of_suffix {n : Nat} (h : HoldsLongRun rest n) (hs : rest <:+ s) :
    HoldsLongRun s n := by
  obtain ⟨run, hrun, hlen, hlong, hdigits⟩ := h
  exact ⟨run, hrun.trans hs.isInfix, hlen, hlong, hdigits⟩

namespace Reads

theorem of_suffix {x : Step α} (h : Reads rest x) (hs : rest <:+ s) : Reads s x := by
  match x, h with
  | .ok r, h => exact List.IsSuffix.trans h hs
  | .error (.malformed _ _), _ => trivial
  | .error (.tooManyDigits n), h => exact HoldsLongRun.of_suffix h hs

theorem map {x : Step α} (h : Reads s x) (f : α → β) :
    Reads s (x.map fun r => (f r.1, r.2)) := by
  match x, h with
  | .ok r, h => exact h
  | .error (.malformed _ _), _ => trivial
  | .error (.tooManyDigits n), h => exact h

theorem bind {x : Except Fault (α × List Char)} {f : α × List Char → Except Fault (β × List Char)}
    (h : Reads s x) (hf : ∀ r, r.2 <:+ s → Reads r.2 (f r)) :
    Reads s (x >>= f : Except Fault (β × List Char)) := by
  match x, h with
  | .ok r, h => exact (hf r h).of_suffix h
  | .error (.malformed _ _), _ => trivial
  | .error (.tooManyDigits n), h => exact h

end Reads

theorem skipSpace_suffix (s : List Char) : skipSpace s <:+ s := List.dropWhile_suffix _

theorem suffix_of_skipSpace {c : Char} (h : skipSpace s = c :: rest) : rest <:+ s := by
  have htoken := skipSpace_suffix s
  rw [h] at htoken
  exact (List.suffix_cons c rest).trans htoken

/-! ## Strings -/

theorem reads_stringUnits (start : Nat) (s : List Char) : Reads s (stringUnits start s) := by
  fun_induction stringUnits start s with
  | case1 | case3 | case5 | case6 | case8 | case9 => trivial
  | case2 rest => exact List.suffix_cons _ _
  | case4 a b c d e rest n hn ih =>
    exact (ih.map _).of_suffix ⟨['\\', 'u', a, b, c, d], rfl⟩
  | case7 c rest _ _ x hx ih => exact (ih.map _).of_suffix ⟨['\\', c], rfl⟩
  | case10 c rest _ _ _ _ _ _ ih => exact (ih.map _).of_suffix (List.suffix_cons _ _)

theorem reads_readString (s : List Char) : Reads s (readString s) :=
  (reads_stringUnits _ s).map fun units => String.ofList (joinHalves units)

/-! ## Numbers -/

/-- The digits that are read stand in the text, before what is left of it. -/
theorem exists_run_digits (s : List Char) : ∃ run, s = run ++ (digits s).2 ∧
    run.length = (digits s).1.length ∧ ∀ c ∈ run, (asciiDigit? c).isSome = true := by
  fun_induction digits s with
  | case1 => exact ⟨[], rfl, rfl, nofun⟩
  | case2 c rest d hd r ih =>
    obtain ⟨run, hs, hlen, hdigits⟩ := ih
    refine ⟨c :: run, congrArg (c :: ·) hs, by simp [hlen, r], ?_⟩
    exact List.forall_mem_cons.2 ⟨by simp [hd], hdigits⟩
  | case3 c rest hd => exact ⟨[], rfl, rfl, nofun⟩

theorem digits_suffix (s : List Char) : (digits s).2 <:+ s := by
  obtain ⟨run, hs, -⟩ := exists_run_digits s
  exact ⟨run, hs.symm⟩

theorem fractionPart_suffix (s : List Char) : (fractionPart s).2 <:+ s := by
  unfold fractionPart
  split
  next rest =>
    simp only
    split
    · exact List.suffix_rfl
    · exact (digits_suffix rest).trans (List.suffix_cons _ _)
  next => exact List.suffix_rfl

theorem exponentPart_suffix (s : List Char) : (exponentPart s).2 <:+ s := by
  unfold exponentPart
  split
  next c rest =>
    split
    next =>
      simp only
      split
      · exact List.suffix_rfl
      · exact ((digits_suffix _).trans (splitSign_suffix rest)).trans (List.suffix_cons _ _)
    next => exact List.suffix_rfl
  next => exact List.suffix_rfl

theorem wholePart_eq_some {ds : List Nat} (h : wholePart s = some (ds, rest)) :
    rest <:+ s ∧ (digitLimit < ds.length → HoldsLongRun s ds.length) := by
  unfold wholePart at h
  split at h
  next tail =>
    cases h
    exact ⟨List.suffix_cons _ _, fun hlong => absurd hlong (by decide)⟩
  next =>
    simp only at h
    split at h
    next => cases h
    next =>
      obtain ⟨run, hs, hlen, hdigits⟩ := exists_run_digits s
      rw [Option.some.injEq] at h
      rw [h] at hs hlen
      exact ⟨⟨run, hs.symm⟩, fun hlong => ⟨run, ⟨[], rest, hs.symm⟩, hlen, hlong, hdigits⟩⟩

theorem numeral?_eq_some {n : Numeral} (h : numeral? s = some (n, rest)) :
    rest <:+ s ∧ (digitLimit < n.whole.length → HoldsLongRun s n.whole.length) := by
  unfold numeral? at h
  split at h
  next negative body hsign =>
    have hbody : body <:+ s := by
      split at hsign
      next => cases hsign; exact List.suffix_cons _ _
      next => cases hsign; exact List.suffix_rfl
    obtain ⟨⟨whole, afterWhole⟩, hwhole, hn⟩ := Option.bind_eq_some_iff.1 h
    obtain ⟨hafter, hlong⟩ := wholePart_eq_some hwhole
    cases hn
    have hend := (exponentPart_suffix _).trans (fractionPart_suffix afterWhole)
    exact ⟨(hend.trans hafter).trans hbody, fun hmany => (hlong hmany).of_suffix hbody⟩

theorem reads_value {n : Numeral} (h : numeral? s = some (n, rest)) :
    Reads s (n.value.map fun v => (v, rest)) := by
  obtain ⟨hrest, hlong⟩ := numeral?_eq_some h
  unfold Numeral.value
  split
  next =>
    split
    next hmany => exact hlong hmany
    next => exact hrest
  next => exact hrest

/-! ## Values -/

theorem literal?_suffix {v : Value} (h : literal? s = some (v, rest)) : rest <:+ s := by
  obtain ⟨l, -, hl⟩ := List.exists_of_findSome?_eq_some h
  split at hl
  next =>
    cases hl
    exact List.drop_suffix _ _
  next => cases hl

variable {element : List Char → Step Value}

theorem reads_elements (helement : ∀ s, Reads s (element s)) (fuel : Nat) (s : List Char) :
    Reads s (elements element fuel s) := by
  induction fuel generalizing s with
  | zero => trivial
  | succ fuel ih =>
    refine (helement s).bind fun r _ => ?_
    simp only
    split
    next rest hclose => exact suffix_of_skipSpace hclose
    next rest hcomma =>
      refine ((ih _).bind fun vs _ => ?_).of_suffix
        ((skipSpace_suffix rest).trans (suffix_of_skipSpace hcomma))
      exact List.suffix_rfl
    next => trivial

theorem reads_members (helement : ∀ s, Reads s (element s)) (fuel : Nat) (s : List Char) :
    Reads s (members element fuel s) := by
  induction fuel generalizing s with
  | zero => trivial
  | succ fuel ih =>
    unfold members
    split
    next rest =>
      refine ((reads_readString rest).bind fun name _ => ?_).of_suffix (List.suffix_cons _ _)
      simp only
      split
      next tail hcolon =>
        refine ((helement _).bind fun r _ => ?_).of_suffix
          ((skipSpace_suffix tail).trans (suffix_of_skipSpace hcolon))
        split
        next rest hclose => exact suffix_of_skipSpace hclose
        next rest hcomma =>
          refine ((ih _).bind fun ms _ => ?_).of_suffix
            ((skipSpace_suffix rest).trans (suffix_of_skipSpace hcomma))
          exact List.suffix_rfl
        next => trivial
      next => trivial
    next => trivial

/-- **A reader stops at too many digits only where they stand in the text.** -/
theorem reads_readValue (depth : Nat) (s : List Char) : Reads s (readValue depth s) := by
  induction depth generalizing s with
  | zero => trivial
  | succ depth ih =>
    unfold readValue
    split
    next rest => exact ((reads_readString rest).map Value.string).of_suffix (List.suffix_cons _ _)
    next rest =>
      have hopen := List.suffix_cons '[' rest
      split
      next tail hclose => exact (suffix_of_skipSpace hclose).trans hopen
      next =>
        exact ((reads_elements ih _ _).map Value.array).of_suffix
          ((skipSpace_suffix rest).trans hopen)
    next rest =>
      have hopen := List.suffix_cons '\x7b' rest
      split
      next tail hclose => exact (suffix_of_skipSpace hclose).trans hopen
      next =>
        exact ((reads_members ih _ _).map objectOf).of_suffix
          ((skipSpace_suffix rest).trans hopen)
    next =>
      split
      next r hr => exact literal?_suffix hr
      next =>
        split
        next n rest hn => exact reads_value hn
        next => trivial

/-! ## Documents -/

theorem holdsLongRun_of_readText {n : Nat} (h : readText s = .error (.tooManyDigits n)) :
    HoldsLongRun s n := by
  unfold readText at h
  split at h
  next => cases h
  next =>
    have hread := (reads_readValue (s.length + 1) (skipSpace s)).of_suffix (skipSpace_suffix s)
    cases hv : readValue (s.length + 1) (skipSpace s) with
    | error fault =>
      rw [hv] at h hread
      cases h
      exact hread
    | ok r =>
      rw [hv] at h
      simp only [bind, Except.bind] at h
      split at h <;> cases h

/-- **A document is refused for too many digits only if they stand in it**, one after another. -/
theorem holdsLongRun_of_read {text : String} {n : Nat}
    (h : read text = .error (.tooManyDigits n)) : HoldsLongRun text.toList n := by
  unfold read at h
  cases hread : readText text.toList with
  | ok v =>
    rw [hread] at h
    cases h
  | error fault =>
    rw [hread] at h
    cases fault with
    | malformed cause rest => cases h
    | tooManyDigits m =>
      cases h
      exact holdsLongRun_of_readText hread

/-! ## A number of too many digits -/

theorem digits_append {run : List Char} (hrun : ∀ c ∈ run, (asciiDigit? c).isSome = true)
    (hrest : ∀ c, rest.head? = some c → asciiDigit? c = none) :
    (digits (run ++ rest)).1.length = run.length ∧ (digits (run ++ rest)).2 = rest := by
  induction run with
  | nil =>
    cases rest with
    | nil => exact ⟨rfl, rfl⟩
    | cons c rest => simp [digits, hrest c rfl]
  | cons c run ih =>
    rw [List.forall_mem_cons] at hrun
    obtain ⟨d, hd⟩ := Option.isSome_iff_exists.1 hrun.1
    obtain ⟨hlen, hend⟩ := ih hrun.2
    simp [digits, hd, hlen, hend]

/-- Whether a number that has been read so far is at its end. -/
def EndsNumber (rest : List Char) : Prop :=
  ∀ c, rest.head? = some c → asciiDigit? c = none ∧ c ≠ '.' ∧ c ≠ 'e' ∧ c ≠ 'E'

theorem fractionPart_of_endsNumber (h : EndsNumber rest) : fractionPart rest = (none, rest) := by
  unfold fractionPart
  split
  next tail => exact absurd rfl (h '.' rfl).2.1
  next => rfl

theorem exponentPart_of_endsNumber (h : EndsNumber rest) : exponentPart rest = (none, rest) := by
  unfold exponentPart
  split
  next c tail =>
    obtain ⟨-, -, he, hE⟩ := h c rfl
    rw [if_neg (by simp [he, hE])]
  next => rfl

/-- What begins with a digit begins neither a word nor anything but a number. -/
theorem ne_of_digit {c c' : Char} (h : (asciiDigit? c).isSome = true)
    (h' : (asciiDigit? c').isSome = false) : c ≠ c' := by
  rintro rfl
  rw [h] at h'
  cases h'

theorem literal?_of_digit {c : Char} (h : (asciiDigit? c).isSome = true) (s : List Char) :
    literal? (c :: s) = none := by
  have hword : ∀ l ∈ literals, ∃ c' cs, l.1 = c' :: cs ∧ (asciiDigit? c').isSome = false := by
    simp [literals, asciiDigit?]
  refine List.findSome?_eq_none_iff.2 fun l hl => ?_
  obtain ⟨c', cs, hl', hc'⟩ := hword l hl
  have hne : (c' == c) = false := beq_false_of_ne (ne_of_digit h hc').symm
  rw [hl', if_neg (by simp [List.isPrefixOf, hne])]

theorem numeral?_of_run {c : Char} {run : List Char}
    (hrun : ∀ d ∈ c :: run, (asciiDigit? d).isSome = true) (hzero : c ≠ '0')
    (hrest : EndsNumber rest) : ∃ whole, whole.length = (c :: run).length ∧
      numeral? (c :: run ++ rest) = some (⟨false, whole, none, none⟩, rest) := by
  obtain ⟨hlen, hend⟩ := digits_append hrun fun d hd => (hrest d hd).1
  have hminus : c ≠ '-' := ne_of_digit (hrun c (by simp)) (by decide)
  have hwhole : wholePart (c :: run ++ rest) = some (digits (c :: run ++ rest)) := by
    have hsome : (digits (c :: run ++ rest)).1.isEmpty = false := by
      rw [List.isEmpty_eq_false_iff, ← List.length_pos_iff, hlen]
      simp
    unfold wholePart
    split
    next tail heq => exact absurd (List.cons.inj heq).1 hzero
    next => simp only [hsome, Bool.false_eq_true, if_false]
  refine ⟨(digits (c :: run ++ rest)).1, hlen, ?_⟩
  unfold numeral?
  split
  next negative body hsign =>
    split at hsign
    next tail heq => exact absurd (List.cons.inj heq).1 hminus
    next =>
      cases hsign
      simp only [hwhole, hend, fractionPart_of_endsNumber hrest, exponentPart_of_endsNumber hrest,
        bind, Option.bind, pure]

/-- **A number of too many digits is refused** wherever a value is read. -/
theorem readValue_of_longRun {c : Char} {run : List Char}
    (hrun : ∀ d ∈ c :: run, (asciiDigit? d).isSome = true) (hzero : c ≠ '0')
    (hlong : digitLimit < (c :: run).length) (hrest : EndsNumber rest) (depth : Nat) :
    readValue (depth + 1) (c :: run ++ rest) = .error (.tooManyDigits (c :: run).length) := by
  obtain ⟨whole, hlen, hnumeral⟩ := numeral?_of_run hrun hzero hrest
  have hdigit := hrun c (by simp)
  have hvalue : Numeral.value ⟨false, whole, none, none⟩ =
      .error (.tooManyDigits whole.length) := by
    rw [Numeral.value, if_pos (by rw [hlen]; exact hlong)]
  have hfirst : ∀ c', (asciiDigit? c').isSome = false → ∀ tail, c :: run ++ rest ≠ c' :: tail :=
    fun c' hc' tail heq => ne_of_digit hdigit hc' (List.cons.inj heq).1
  unfold readValue
  split
  next tail heq => exact absurd heq (hfirst _ (by decide) tail)
  next tail heq => exact absurd heq (hfirst _ (by decide) tail)
  next tail heq => exact absurd heq (hfirst _ (by decide) tail)
  next =>
    simp only [List.cons_append] at hnumeral ⊢
    rw [literal?_of_digit hdigit, hnumeral]
    simp only [hvalue, hlen]
    rfl

/-- The text of an object whose only member is written as the given digits. -/
def memberText (run : List Char) : List Char :=
  '\x7b' :: '"' :: 'n' :: '"' :: ':' :: (run ++ ['\x7d'])

theorem read_of_longMember {c : Char} {run : List Char}
    (hrun : ∀ d ∈ c :: run, (asciiDigit? d).isSome = true) (hzero : c ≠ '0')
    (hlong : digitLimit < (c :: run).length) :
    read (String.ofList (memberText (c :: run))) = .error (.tooManyDigits (c :: run).length) := by
  have hend : EndsNumber ['\x7d'] := by
    intro d hd
    cases hd
    decide
  have hvalue := readValue_of_longRun hrun hzero hlong hend
  have hspace : skipSpace (c :: run ++ ['\x7d']) = c :: run ++ ['\x7d'] := by
    have hblank : isSpace c = false := by
      have hne : ∀ c', (asciiDigit? c').isSome = false → c ≠ c' :=
        fun _ => ne_of_digit (hrun c (by simp))
      simp [isSpace, hne ' ' (by decide), hne '\t' (by decide), hne '\n' (by decide),
        hne '\r' (by decide)]
    simp [skipSpace, hblank]
  rw [memberText]
  generalize c :: run ++ ['\x7d'] = tail at hvalue hspace ⊢
  -- One level for the object, and one for its member.
  have hobject : ∀ depth, readValue (depth + 2) ('\x7b' :: '"' :: 'n' :: '"' :: ':' :: tail) =
      .error (.tooManyDigits (c :: run).length) := by
    intro depth
    have hname : readString ('n' :: '"' :: ':' :: tail) = .ok ("n", ':' :: tail) := by
      simp [readString, stringUnits, Except.map, joinHalves, unitChar, isHighHalf, isLowHalf]
    have hmember : members (readValue (depth + 1)) (tail.length + 5)
        ('"' :: 'n' :: '"' :: ':' :: tail) = .error (.tooManyDigits (c :: run).length) := by
      have hcolon : skipSpace (':' :: tail) = ':' :: tail := rfl
      rw [members]
      simp only [hname, bind, Except.bind, hcolon, hspace, hvalue depth]
    have hname' : skipSpace ('"' :: 'n' :: '"' :: ':' :: tail) = '"' :: 'n' :: '"' :: ':' :: tail :=
      rfl
    rw [readValue, hname']
    show (members (readValue (depth + 1)) (tail.length + 5) _).map _ = _
    rw [hmember]
    rfl
  have htext : readText ('\x7b' :: '"' :: 'n' :: '"' :: ':' :: tail) =
      .error (.tooManyDigits (c :: run).length) := by
    have hopen : skipSpace ('\x7b' :: '"' :: 'n' :: '"' :: ':' :: tail) =
        '\x7b' :: '"' :: 'n' :: '"' :: ':' :: tail := rfl
    unfold readText
    split
    next rest heq => exact absurd (List.cons.inj heq).1 (by decide)
    next =>
      rw [hopen]
      simp only [List.length_cons, hobject]
      rfl
  rw [read, String.toList_ofList, htext]
  rfl

end Fingerprint.Json
