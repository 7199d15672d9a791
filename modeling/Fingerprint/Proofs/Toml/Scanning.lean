/-
What the scanners of a document give. Each leaves an end of the text, or
reports a violation, or stops at an integer of too many digits, and then these
digits stand in the text in a row (`Meets`). That is shown of one scanner after
another, up to all values that hold no other (`meets_readScalar`).
-/
import Fingerprint.Toml.Values

namespace Fingerprint.Toml

open Text Decimal Calendar

/-- Whether a text holds this many digits in a row, too many for an integer; underscores among them
do not count. -/
def HoldsLongRun (s : List Char) (n : Nat) : Prop :=
  ∃ run, run <:+: s ∧ (run.filter (· != '_')).length = n ∧ digitLimit < n ∧
    ∀ c ∈ run, (asciiDigit? c).isSome = true ∨ c = '_'

/-- Whether an answer is one that readers of a text give: a result of which `Q` holds, a violation,
or a stop at too many digits, which stand in the text. -/
def Meets {α : Type} (text : List Char) (Q : α → Prop) : Except Fault α → Prop
  | .ok a => Q a
  | .error (.violated _ _) => True
  | .error (.tooManyDigits n) => HoldsLongRun text n

/-- Whether what a reader leaves is an end of the text. -/
def Leaves {α : Type} (text : List Char) (r : α × List Char) : Prop := r.2 <:+ text

variable {α β : Type} {text s rest : List Char}

namespace Meets

variable {P Q : α → Prop} {R : β → Prop}

theorem imp {x : Except Fault α} (h : Meets text P x) (hpq : ∀ a, P a → Q a) : Meets text Q x := by
  match x, h with
  | .ok a, h => exact hpq a h
  | .error (.violated _ _), _ => trivial
  | .error (.tooManyDigits n), h => exact h

theorem map {x : Except Fault α} {f : α → β} (h : Meets text P x) (hf : ∀ a, P a → R (f a)) :
    Meets text R (x.map f) := by
  match x, h with
  | .ok a, h => exact hf a h
  | .error (.violated _ _), _ => trivial
  | .error (.tooManyDigits n), h => exact h

theorem bind {x : Except Fault α} {f : α → Except Fault β} (h : Meets text P x)
    (hf : ∀ a, P a → Meets text R (f a)) : Meets text R (x >>= f : Except Fault β) := by
  match x, h with
  | .ok a, h => exact hf a h
  | .error (.violated _ _), _ => trivial
  | .error (.tooManyDigits n), h => exact h

end Meets

/-! ## Ends of a text -/

theorem suffix_of_cons {c : Char} (h : c :: s <:+ text) : s <:+ text := (List.suffix_cons c s).trans h

theorem suffix_of_append (pre : List Char) (h : pre ++ s <:+ text) : s <:+ text :=
  (List.suffix_append pre s).trans h

theorem skipSpace_suffix (s : List Char) : skipSpace s <:+ s := List.dropWhile_suffix _

theorem dropFirstBreak_suffix (s : List Char) : dropFirstBreak s <:+ s := by
  unfold dropFirstBreak
  split
  next => exact List.suffix_cons _ _
  next => exact List.suffix_rfl

/-! ## Strings -/

theorem meets_hexChar (ds here rest : List Char) :
    Meets text (fun _ => True) (hexChar ds here rest) := by
  unfold hexChar
  split
  next => trivial
  next =>
    simp only
    split <;> trivial

theorem meets_basicTail (h : s <:+ text) : Meets text (Leaves text) (basicTail s) := by
  fun_induction basicTail s with
  | case1 | case5 | case6 | case8 | case9 => trivial
  | case2 rest => exact suffix_of_cons h
  | case3 a b c d rest ih =>
    exact (meets_hexChar _ _ _).bind fun x _ =>
      (ih (suffix_of_append ['\\', 'u', a, b, c, d] h)).map fun r hr => hr
  | case4 a b c d e f g i rest ih =>
    exact (meets_hexChar _ _ _).bind fun x _ =>
      (ih (suffix_of_append ['\\', 'U', a, b, c, d, e, f, g, i] h)).map fun r hr => hr
  | case7 c rest _ _ _ _ _ ih => exact (ih (suffix_of_append ['\\', c] h)).map fun r hr => hr
  | case10 c rest _ _ _ _ _ _ ih => exact (ih (suffix_of_cons h)).map fun r hr => hr

theorem meets_refuseWhere (p : Char → Bool) (s : List Char) (after : Nat) :
    Meets text (fun _ => True) (refuseWhere p s after) := by
  unfold refuseWhere
  split <;> trivial

theorem meets_literalTail (h : s <:+ text) : Meets text (Leaves text) (literalTail s) := by
  have hend := (List.dropWhile_suffix (· != '\'')).trans h
  unfold literalTail
  simp only
  split
  next => trivial
  next quote rest hquote =>
    rw [hquote] at hend
    exact (meets_refuseWhere _ _ _).bind fun _ _ => suffix_of_cons hend

theorem meets_longBasicTail {k : Continuation} (h : s <:+ text) :
    Meets text (Leaves text) (longBasicTail k s) := by
  fun_induction longBasicTail k s with
  | case1 | case4 | case10 | case11 | case13 | case15 => trivial
  | case5 k rest => exact suffix_of_append ['"', '"', '"'] h
  | case2 c rest _ ih => exact ih (suffix_of_cons h)
  | case3 rest _ ih => exact ih (suffix_of_cons h)
  | case6 _ a b c d rest _ ih =>
    exact (meets_hexChar _ _ _).bind fun x _ =>
      (ih (suffix_of_append ['\\', 'u', a, b, c, d] h)).map fun r hr => hr
  | case7 _ a b c d e f g i rest _ ih =>
    exact (meets_hexChar _ _ _).bind fun x _ =>
      (ih (suffix_of_append ['\\', 'U', a, b, c, d, e, f, g, i] h)).map fun r hr => hr
  | case8 _ rest _ _ _ ih => exact ih (suffix_of_append ['\\', '\n'] h)
  | case9 _ c rest _ _ _ _ _ ih => exact ih (suffix_of_append ['\\', c] h)
  | case12 _ c rest _ _ _ _ _ _ _ _ ih =>
    exact (ih (suffix_of_append ['\\', c] h)).map fun r hr => hr
  | case14 _ c rest _ _ _ _ _ _ _ ih => exact ih (suffix_of_cons h)
  | case16 _ c rest _ _ _ _ _ _ _ _ ih => exact (ih (suffix_of_cons h)).map fun r hr => hr

theorem untilLongQuote?_suffix {r : List Char × List Char} (h : untilLongQuote? s = some r) :
    r.2 <:+ s := by
  fun_induction untilLongQuote? s generalizing r with
  | case1 => cases h
  | case2 rest =>
    cases h
    exact List.suffix_append ['\'', '\'', '\''] rest
  | case3 c rest _ ih =>
    obtain ⟨t, ht, rfl⟩ := Option.map_eq_some_iff.1 h
    exact (ih ht).trans (List.suffix_cons c rest)

theorem meets_longLiteralTail (h : s <:+ text) : Meets text (Leaves text) (longLiteralTail s) := by
  unfold longLiteralTail
  split
  next => trivial
  next literal rest hquote =>
    exact (meets_refuseWhere _ _ _).bind fun _ _ => (untilLongQuote?_suffix hquote).trans h

theorem moreQuotes_suffix (quote : Char) (r : List Char × List Char) :
    (moreQuotes quote r).2 <:+ r.2 := by
  obtain ⟨held, rest⟩ := r
  match rest with
  | [] => exact List.suffix_rfl
  | [c] =>
    simp only [moreQuotes]
    split
    · exact List.suffix_cons _ _
    · exact List.suffix_rfl
  | c :: d :: rest =>
    simp only [moreQuotes]
    split
    · exact List.suffix_append [c, d] rest
    · split
      · exact List.suffix_cons _ _
      · exact List.suffix_rfl

theorem meets_stringHere? {x : Except Fault (List Char × List Char)} (hs : s <:+ text)
    (h : stringHere? s = some x) : Meets text (Leaves text) x := by
  unfold stringHere? at h
  split at h
  next rest =>
    cases h
    refine (meets_longBasicTail ?_).map fun r hr => (moreQuotes_suffix _ r).trans hr
    exact (dropFirstBreak_suffix rest).trans (suffix_of_append ['"', '"', '"'] hs)
  next rest =>
    cases h
    exact meets_basicTail (suffix_of_cons hs)
  next rest =>
    cases h
    refine (meets_longLiteralTail ?_).map fun r hr => (moreQuotes_suffix _ r).trans hr
    exact (dropFirstBreak_suffix rest).trans (suffix_of_append ['\'', '\'', '\''] hs)
  next rest =>
    cases h
    exact meets_literalTail (suffix_of_cons hs)
  next => cases h

/-! ## Keys -/

theorem meets_readName (h : s <:+ text) : Meets text (Leaves text) (readName s) := by
  unfold readName
  split
  next rest => exact (meets_basicTail (suffix_of_cons h)).map fun r hr => hr
  next rest => exact (meets_literalTail (suffix_of_cons h)).map fun r hr => hr
  next =>
    split
    next => trivial
    next => exact (List.dropWhile_suffix _).trans h

theorem meets_readNames (fuel : Nat) (h : s <:+ text) :
    Meets text (Leaves text) (readNames fuel s) := by
  induction fuel generalizing s with
  | zero => trivial
  | succ fuel ih =>
    refine (meets_readName h).bind fun r hr => ?_
    have hskip := (skipSpace_suffix r.2).trans hr
    simp only
    split
    next rest hdot =>
      rw [hdot] at hskip
      exact (ih ((skipSpace_suffix rest).trans (suffix_of_cons hskip))).bind fun names hnames => hnames
    next => exact hskip

theorem meets_readKey (h : s <:+ text) : Meets text (Leaves text) (readKey s) :=
  meets_readNames _ h

/-! ## Numbers -/

theorem exists_run_moreDigits (s : List Char) :
    ∃ run, s = run ++ (moreDigits asciiDigit? s).2 ∧
      (run.filter (· != '_')).length = (moreDigits asciiDigit? s).1.length ∧
      ∀ c ∈ run, (asciiDigit? c).isSome = true ∨ c = '_' := by
  have hne : ∀ {c d}, asciiDigit? c = some d → (c != '_') = true := by
    intro c d hd
    rw [bne_iff_ne]
    rintro rfl
    cases hd
  fun_induction moreDigits asciiDigit? s with
  | case1 => exact ⟨[], rfl, rfl, nofun⟩
  | case2 d rest v hv r ih =>
    obtain ⟨run, hs, hlen, hdigits⟩ := ih
    refine ⟨'_' :: d :: run, by simp only [List.cons_append, ← hs, r], ?_, ?_⟩
    · simp [hne hv, hlen, r]
    · exact List.forall_mem_cons.2 ⟨.inr rfl, List.forall_mem_cons.2 ⟨.inl (by simp [hv]), hdigits⟩⟩
  | case3 d rest _ => exact ⟨[], rfl, rfl, nofun⟩
  | case4 c rest _ v hv r ih =>
    obtain ⟨run, hs, hlen, hdigits⟩ := ih
    refine ⟨c :: run, by simp only [List.cons_append, ← hs, r], ?_, ?_⟩
    · simp [hne hv, hlen, r]
    · exact List.forall_mem_cons.2 ⟨.inl (by simp [hv]), hdigits⟩
  | case5 c rest _ _ => exact ⟨[], rfl, rfl, nofun⟩

theorem moreDigits_suffix (digit? : Char → Option Nat) (s : List Char) :
    (moreDigits digit? s).2 <:+ s := by
  fun_induction moreDigits digit? s with
  | case1 | case3 | case5 => exact List.suffix_rfl
  | case2 d rest v _ r ih => exact ih.trans (List.suffix_append ['_', d] rest)
  | case4 c rest _ v _ r ih => exact ih.trans (List.suffix_cons c rest)

theorem digitsHere?_suffix {digit? : Char → Option Nat} {r : List Nat × List Char}
    (h : digitsHere? digit? s = some r) : r.2 <:+ s := by
  unfold digitsHere? at h
  split at h
  next c rest =>
    obtain ⟨v, -, rfl⟩ := Option.map_eq_some_iff.1 h
    exact (moreDigits_suffix _ rest).trans (List.suffix_cons c rest)
  next => cases h

theorem exists_run_digitsHere? {r : List Nat × List Char} (h : digitsHere? asciiDigit? s = some r) :
    ∃ run, s = run ++ r.2 ∧ (run.filter (· != '_')).length = r.1.length ∧
      ∀ c ∈ run, (asciiDigit? c).isSome = true ∨ c = '_' := by
  cases s with
  | nil => cases h
  | cons c tail =>
    obtain ⟨v, hv, rfl⟩ := Option.map_eq_some_iff.1 h
    obtain ⟨run, hrun, hlen, hdigits⟩ := exists_run_moreDigits tail
    have hfirst : c ≠ '_' := by
      rintro rfl
      cases hv
    refine ⟨c :: run, by rw [List.cons_append, ← hrun], by simp [hfirst, hlen], ?_⟩
    exact List.forall_mem_cons.2 ⟨.inl (by simp [hv]), hdigits⟩

theorem wholeHere?_eq_some {ds : List Nat} (h : wholeHere? s = some (ds, rest)) :
    rest <:+ s ∧ (digitLimit < ds.length → HoldsLongRun s ds.length) := by
  unfold wholeHere? at h
  split at h
  next tail =>
    cases h
    exact ⟨List.suffix_cons _ _, fun hlong => absurd hlong (by decide)⟩
  next =>
    obtain ⟨run, hs, hlen, hdigits⟩ := exists_run_digitsHere? h
    exact ⟨⟨run, hs.symm⟩, fun hlong => ⟨run, ⟨[], rest, hs.symm⟩, hlen, hlong, hdigits⟩⟩

theorem fractionHere_suffix (s : List Char) : (fractionHere s).2 <:+ s := by
  unfold fractionHere
  split
  next rest =>
    split
    next r hr => exact (digitsHere?_suffix hr).trans (List.suffix_cons _ _)
    next => exact List.suffix_rfl
  next => exact List.suffix_rfl

theorem exponentHere_suffix (s : List Char) : (exponentHere s).2 <:+ s := by
  unfold exponentHere
  split
  next c rest =>
    split
    next =>
      simp only
      split
      next r hr =>
        exact ((digitsHere?_suffix hr).trans (splitSign_suffix rest)).trans (List.suffix_cons _ _)
      next => exact List.suffix_rfl
    next => exact List.suffix_rfl
  next => exact List.suffix_rfl

/-- Whether what is read is neither an array nor a table, and an end of the text is left. -/
def LeavesScalar (text : List Char) (r : Value × List Char) : Prop :=
  r.2 <:+ text ∧ r.1.isNest = false

theorem leavesScalar_basedHere? {r : Value × List Char} (hs : s <:+ text)
    (h : basedHere? s = some r) : LeavesScalar text r := by
  have hbased : ∀ (mark : List Char) (base : Nat) (tail : List Char), mark ++ tail <:+ text →
      ((digitsHere? (digitOf? base) tail).map fun r => (Value.int (ofDigits base r.1), r.2)) = some r →
      LeavesScalar text r := by
    intro mark base tail htail hr
    obtain ⟨t, ht, rfl⟩ := Option.map_eq_some_iff.1 hr
    exact ⟨(digitsHere?_suffix ht).trans (suffix_of_append mark htail), rfl⟩
  unfold basedHere? at h
  simp only at h
  split at h
  next tail => exact hbased ['0', 'x'] 16 tail hs h
  next tail => exact hbased ['0', 'o'] 8 tail hs h
  next tail => exact hbased ['0', 'b'] 2 tail hs h
  next => cases h

theorem meets_decimalValue {negative : Bool} {whole : List Nat}
    (h : digitLimit < whole.length → HoldsLongRun text whole.length) (fraction : Option (List Nat))
    (exponent : Option Int) :
    Meets text (fun v => v.isNest = false) (decimalValue negative whole fraction exponent) := by
  unfold decimalValue
  split
  next =>
    split
    next hlong => exact h hlong
    next => exact rfl
  next => exact rfl

theorem meets_numberHere? {x : Except Fault (Value × List Char)} (hs : s <:+ text)
    (h : numberHere? s = some x) : Meets text (LeavesScalar text) x := by
  unfold numberHere? at h
  split at h
  next r hr =>
    cases h
    exact leavesScalar_basedHere? hs hr
  next =>
    obtain ⟨⟨whole, rest⟩, hwhole, rfl⟩ := Option.map_eq_some_iff.1 h
    have hbody := (splitSign_suffix s).trans hs
    obtain ⟨hrest, hlong⟩ := wholeHere?_eq_some hwhole
    have hend := (exponentHere_suffix _).trans ((fractionHere_suffix rest).trans (hrest.trans hbody))
    refine (meets_decimalValue (fun hmany => ?_) _ _).map fun v hv => ⟨hend, hv⟩
    obtain ⟨run, hrun, hrest⟩ := hlong hmany
    exact ⟨run, hrun.trans hbody.isInfix, hrest⟩

theorem leavesScalar_specialHere? {r : Value × List Char} (hs : s <:+ text)
    (h : specialHere? s = some r) : LeavesScalar text r := by
  obtain ⟨w, -, hw⟩ := List.exists_of_findSome?_eq_some h
  split at hw
  next =>
    cases hw
    exact ⟨(List.drop_suffix _ _).trans hs, rfl⟩
  next => cases hw

/-! ## Dates -/

theorem fixedNumber?_suffix {width : Nat} {r : Nat × List Char} (h : fixedNumber? width s = some r) :
    r.2 <:+ s := by
  obtain ⟨ds, -, h⟩ := Option.bind_eq_some_iff.1 h
  split at h
  next =>
    cases h
    exact List.drop_suffix _ _
  next => cases h

theorem twoDigitNumber?_suffix {low high : Nat} {r : Nat × List Char}
    (h : twoDigitNumber? low high s = some r) : r.2 <:+ s := by
  obtain ⟨t, ht, h⟩ := Option.bind_eq_some_iff.1 h
  split at h
  next =>
    cases h
    exact fixedNumber?_suffix ht
  next => cases h

theorem char?_suffix {c : Char} (h : char? c s = some rest) : rest <:+ s := by
  unfold char? at h
  split at h
  next d tail =>
    split at h
    next =>
      cases h
      exact List.suffix_cons _ _
    next => cases h
  next => cases h

theorem microseconds_suffix (s : List Char) : (microseconds s).2 <:+ s := by
  unfold microseconds
  split
  next d rest =>
    split
    next => exact (List.dropWhile_suffix _).trans (List.suffix_cons _ _)
    next => exact List.suffix_rfl
  next => exact List.suffix_rfl

theorem timeHere?_suffix {r : TimeOfDay × List Char} (h : timeHere? s = some r) : r.2 <:+ s := by
  obtain ⟨⟨hour, s₁⟩, h₁, h⟩ := Option.bind_eq_some_iff.1 h
  obtain ⟨s₂, h₂, h⟩ := Option.bind_eq_some_iff.1 h
  obtain ⟨⟨minute, s₃⟩, h₃, h⟩ := Option.bind_eq_some_iff.1 h
  obtain ⟨s₄, h₄, h⟩ := Option.bind_eq_some_iff.1 h
  obtain ⟨⟨second, s₅⟩, h₅, h⟩ := Option.bind_eq_some_iff.1 h
  cases h
  exact (microseconds_suffix s₅).trans ((twoDigitNumber?_suffix h₅).trans ((char?_suffix h₄).trans
    ((twoDigitNumber?_suffix h₃).trans ((char?_suffix h₂).trans (twoDigitNumber?_suffix h₁)))))

theorem dateHere?_suffix {r : Date × List Char} (h : dateHere? s = some r) : r.2 <:+ s := by
  obtain ⟨⟨year, s₁⟩, h₁, h⟩ := Option.bind_eq_some_iff.1 h
  obtain ⟨s₂, h₂, h⟩ := Option.bind_eq_some_iff.1 h
  obtain ⟨⟨month, s₃⟩, h₃, h⟩ := Option.bind_eq_some_iff.1 h
  obtain ⟨s₄, h₄, h⟩ := Option.bind_eq_some_iff.1 h
  obtain ⟨⟨day, s₅⟩, h₅, h⟩ := Option.bind_eq_some_iff.1 h
  cases h
  exact (twoDigitNumber?_suffix h₅).trans ((char?_suffix h₄).trans
    ((twoDigitNumber?_suffix h₃).trans ((char?_suffix h₂).trans (fixedNumber?_suffix h₁))))

theorem offsetHere_suffix (s : List Char) : (offsetHere s).2 <:+ s := by
  have hoffset : ∀ (sign : Int) (tail : List Char) {r : Int × List Char},
      ((twoDigitNumber? 0 23 tail).bind fun hours => (char? ':' hours.2).bind fun s =>
        (twoDigitNumber? 0 59 s).bind fun minutes =>
          some (sign * (hours.1 * 60 + minutes.1 : Nat), minutes.2)) = some r → r.2 <:+ tail := by
    intro sign tail r h
    obtain ⟨hours, h₁, h⟩ := Option.bind_eq_some_iff.1 h
    obtain ⟨s, h₂, h⟩ := Option.bind_eq_some_iff.1 h
    obtain ⟨minutes, h₃, h⟩ := Option.bind_eq_some_iff.1 h
    cases h
    exact (twoDigitNumber?_suffix h₃).trans ((char?_suffix h₂).trans (twoDigitNumber?_suffix h₁))
  unfold offsetHere
  simp only
  split
  next => exact List.suffix_cons _ _
  next => exact List.suffix_cons _ _
  next tail =>
    split
    next offset rest h => exact (hoffset 1 tail h).trans (List.suffix_cons _ _)
    next => exact List.suffix_rfl
  next tail =>
    split
    next offset rest h => exact (hoffset (-1) tail h).trans (List.suffix_cons _ _)
    next => exact List.suffix_rfl
  next => exact List.suffix_rfl

theorem timeAfterDate?_suffix {r : TimeOfDay × List Char} (h : timeAfterDate? s = some r) :
    r.2 <:+ s := by
  unfold timeAfterDate? at h
  split at h
  next c tail =>
    split at h
    next => exact (timeHere?_suffix h).trans (List.suffix_cons _ _)
    next => cases h
  next => cases h

theorem meets_momentHere? {x : Except Fault (Value × List Char)} (hs : s <:+ text)
    (h : momentHere? s = some x) : Meets text (LeavesScalar text) x := by
  unfold momentHere? at h
  split at h
  next d rest hd =>
    have hrest := (dateHere?_suffix hd).trans hs
    have hchecked : ∀ r : Value × List Char, LeavesScalar text r →
        (if d.isValid then Except.ok r else faultAt .date s) = x →
        Meets text (LeavesScalar text) x := by
      rintro r hr rfl
      split
      · exact hr
      · trivial
    cases ht : timeAfterDate? rest with
    | none =>
      rw [ht] at h
      exact hchecked (.date d, rest) ⟨hrest, rfl⟩ (Option.some.inj h)
    | some r =>
      rw [ht] at h
      have hend := (offsetHere_suffix r.2).trans ((timeAfterDate?_suffix ht).trans hrest)
      exact hchecked (.datetime d r.1 (offsetHere r.2).1, (offsetHere r.2).2) ⟨hend, rfl⟩
        (Option.some.inj h)
  next =>
    obtain ⟨r, hr, rfl⟩ := Option.map_eq_some_iff.1 h
    exact ⟨(timeHere?_suffix hr).trans hs, rfl⟩

/-! ## Values that hold no other -/

theorem leavesScalar_booleanHere? {r : Value × List Char} (hs : s <:+ text)
    (h : booleanHere? s = some r) : LeavesScalar text r := by
  unfold booleanHere? at h
  split at h
  next rest =>
    cases h
    exact ⟨suffix_of_append "true".toList hs, rfl⟩
  next rest =>
    cases h
    exact ⟨suffix_of_append "false".toList hs, rfl⟩
  next => cases h

/-- **A scanner stops at too many digits only where they stand in the text.** -/
theorem meets_readScalar (hs : s <:+ text) : Meets text (LeavesScalar text) (readScalar s) := by
  unfold readScalar
  split
  next x hx => exact (meets_stringHere? hs hx).map fun r hr => ⟨hr, rfl⟩
  next =>
    split
    next r hr => exact leavesScalar_booleanHere? hs hr
    next =>
      split
      next x hx => exact meets_momentHere? hs hx
      next =>
        split
        next x hx => exact meets_numberHere? hs hx
        next =>
          split
          next r hr => exact leavesScalar_specialHere? hs hr
          next => trivial

end Fingerprint.Toml
