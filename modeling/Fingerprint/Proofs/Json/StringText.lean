/-
A string is read back from its JSON text (`readString_escaped`). The way goes
through sixteen-bit code units: a character beyond their range is written as
two escapes, one for each half, and the reader joins the halves again. The text
itself is printable ASCII (`isWritten_stringText`).
-/
import Fingerprint.Json.Printer
import Fingerprint.Json.Reader

namespace Fingerprint.Json

open Text Decimal

theorem toNat_valid (c : Char) : c.toNat < 0xD800 ∨ 0xDFFF < c.toNat ∧ c.toNat < 0x110000 := c.valid

/-- The ways to write a character in a string: a one-letter escape, the character itself, one
escape of its code unit or two of its halves. -/
theorem escapedChar_cases (c : Char) :
    (∃ x, escapedChar c = ['\\', x] ∧ simpleEscape? x = some c) ∨
    (escapedChar c = [c] ∧ c ≠ '"' ∧ c ≠ '\\' ∧ ' ' ≤ c ∧ c ≤ '~') ∨
    (escapedChar c = unicodeEscape c.toNat ∧ c.toNat < 0x10000) ∨
    (escapedChar c = unicodeEscape (0xD800 + (c.toNat - 0x10000) / 0x400)
      ++ unicodeEscape (0xDC00 + (c.toNat - 0x10000) % 0x400) ∧ 0x10000 ≤ c.toNat) := by
  unfold escapedChar
  iterate 7
    split
    next h => exact .inl ⟨_, rfl, by rw [h]; rfl⟩
  split
  next hplain => exact .inr (.inl ⟨rfl, ‹¬c = '"'›, ‹¬c = '\\'›, hplain⟩)
  split
  next hsmall => exact .inr (.inr (.inl ⟨rfl, hsmall⟩))
  next hlarge => exact .inr (.inr (.inr ⟨rfl, Nat.not_lt.1 hlarge⟩))

theorem ascii_of_simpleEscape? {x c : Char} (h : simpleEscape? x = some c) :
    x ≠ 'u' ∧ ' ' ≤ x ∧ x ≤ '~' ∧ c.toNat < 0x80 := by
  unfold simpleEscape? at h
  split at h <;> cases h <;> decide

/-- The sixteen-bit code units of a character. -/
def codeUnits (c : Char) : List Nat :=
  if c.toNat < 0x10000 then [c.toNat]
  else [0xD800 + (c.toNat - 0x10000) / 0x400, 0xDC00 + (c.toNat - 0x10000) % 0x400]

/-- The halves of a character are joined again. -/
theorem joinHalves_codeUnits (c : Char) (units : List Nat) :
    joinHalves (codeUnits c ++ units) = c :: joinHalves units := by
  have hvalid := toNat_valid c
  rw [codeUnits]
  split
  next hsmall =>
    have hhigh : isHighHalf c.toNat = false := by
      rw [isHighHalf, decide_eq_false_iff_not]
      omega
    have hlow : isLowHalf c.toNat = false := by
      rw [isLowHalf, decide_eq_false_iff_not]
      omega
    have hchar : unitChar c.toNat = c := by simp [unitChar, hhigh, hlow]
    cases units with
    | nil => simp [joinHalves, hchar]
    | cons m units => simp [joinHalves, hhigh, hchar]
  next hlarge =>
    have hhigh : isHighHalf (0xD800 + (c.toNat - 0x10000) / 0x400) = true := by
      rw [isHighHalf, decide_eq_true_iff]
      omega
    have hlow : isLowHalf (0xDC00 + (c.toNat - 0x10000) % 0x400) = true := by
      rw [isLowHalf, decide_eq_true_iff]
      omega
    have hvalue : 0x10000 + (0xD800 + (c.toNat - 0x10000) / 0x400 - 0xD800) * 0x400 +
        (0xDC00 + (c.toNat - 0x10000) % 0x400 - 0xDC00) = c.toNat := by
      omega
    simp only [List.cons_append, List.nil_append, joinHalves, hhigh, hlow, Bool.and_self, if_true,
      hvalue, Char.ofNat_toNat]

theorem joinHalves_flatMap (s : List Char) : joinHalves (s.flatMap codeUnits) = s := by
  induction s with
  | nil => rfl
  | cons c s ih => rw [List.flatMap_cons, joinHalves_codeUnits, ih]

variable {c : Char} {rest : List Char} (start : Nat)

theorem hexDigit?_hexDigit : ∀ n < 16, hexDigit? (hexDigit n) = some n := by decide

theorem hex4?_hexDigits {n : Nat} (h : n < 0x10000) : ∃ x y z w,
    hexDigits 4 n = [x, y, z, w] ∧ hex4? x y z w = some n := by
  refine ⟨hexDigit (n / 16 / 16 / 16 % 16), hexDigit (n / 16 / 16 % 16), hexDigit (n / 16 % 16),
    hexDigit (n % 16), rfl, ?_⟩
  have hdigits : ((n / 16 / 16 / 16 % 16 * 16 + n / 16 / 16 % 16) * 16 + n / 16 % 16) * 16 +
      n % 16 = n := by
    omega
  simp [hex4?, hexDigit?_hexDigit, Nat.mod_lt, ofDigits, hdigits]

/-- An escape is read as its code unit when something follows it. -/
theorem stringUnits_unicodeEscape {n : Nat} (h : n < 0x10000) (hrest : rest ≠ []) :
    stringUnits start (unicodeEscape n ++ rest) =
      (stringUnits start rest).map fun r => (n :: r.1, r.2) := by
  obtain ⟨d, rest, rfl⟩ := List.exists_cons_of_ne_nil hrest
  obtain ⟨x, y, z, w, hdigits, hvalue⟩ := hex4?_hexDigits h
  rw [unicodeEscape, hdigits]
  simp only [List.cons_append, List.nil_append]
  rw [stringUnits, hvalue]

theorem stringUnits_simpleEscape {x : Char} (h : simpleEscape? x = some c) (rest : List Char) :
    stringUnits start ('\\' :: x :: rest) =
      (stringUnits start rest).map fun r => (c.toNat :: r.1, r.2) := by
  have hu := (ascii_of_simpleEscape? h).1
  simp [stringUnits, h, hu]

theorem stringUnits_self (hquote : c ≠ '"') (hslash : c ≠ '\\') (h : ' ' ≤ c) (rest : List Char) :
    stringUnits start (c :: rest) =
      (stringUnits start rest).map fun r => (c.toNat :: r.1, r.2) := by
  have hcontrol : ¬c.toNat < 0x20 := Nat.not_lt.2 (show (' ' : Char).toNat ≤ c.toNat from h)
  simp [stringUnits, hslash, hcontrol]

/-- A character is read back as its code units when something follows it. -/
theorem stringUnits_escapedChar (c : Char) (hrest : rest ≠ []) :
    stringUnits start (escapedChar c ++ rest) =
      (stringUnits start rest).map fun r => (codeUnits c ++ r.1, r.2) := by
  have hvalid := toNat_valid c
  rcases escapedChar_cases c with ⟨x, htext, hx⟩ | ⟨htext, hquote, hslash, hle, hge⟩ |
    ⟨htext, hsmall⟩ | ⟨htext, hlarge⟩
  · have hsmall : c.toNat < 0x10000 := Nat.lt_trans (ascii_of_simpleEscape? hx).2.2.2 (by decide)
    rw [htext, codeUnits, if_pos hsmall]
    exact stringUnits_simpleEscape start hx rest
  · have hsmall : c.toNat < 0x10000 :=
      Nat.lt_of_le_of_lt (show c.toNat ≤ ('~' : Char).toNat from hge) (by decide)
    rw [htext, codeUnits, if_pos hsmall]
    exact stringUnits_self start hquote hslash hle rest
  · rw [htext, codeUnits, if_pos hsmall]
    exact stringUnits_unicodeEscape start hsmall hrest
  · have hnext : unicodeEscape (0xDC00 + (c.toNat - 0x10000) % 0x400) ++ rest ≠ [] := by simp [hrest]
    rw [htext, codeUnits, if_neg (Nat.not_lt.2 hlarge), List.append_assoc,
      stringUnits_unicodeEscape start (by omega) hnext,
      stringUnits_unicodeEscape start (by omega) hrest]
    cases stringUnits start rest <;> rfl

theorem stringUnits_flatMap (s rest : List Char) :
    stringUnits start (s.flatMap escapedChar ++ '"' :: rest) = .ok (s.flatMap codeUnits, rest) := by
  induction s with
  | nil => simp [stringUnits]
  | cons c s ih =>
    rw [List.flatMap_cons, List.append_assoc, stringUnits_escapedChar start c (by simp), ih]
    rfl

theorem stringText_append (name : String) (rest : List Char) :
    stringText name ++ rest = '"' :: (name.toList.flatMap escapedChar ++ '"' :: rest) := by
  simp [stringText]

/-- **A string is read back**, whatever its characters. -/
theorem readString_escaped (s : String) (rest : List Char) :
    readString (s.toList.flatMap escapedChar ++ '"' :: rest) = .ok (s, rest) := by
  rw [readString, stringUnits_flatMap]
  simp [Except.map, joinHalves_flatMap]

/-- Whether a text is printable ASCII and line feeds. -/
def IsWritten (s : List Char) : Prop := ∀ c ∈ s, c = '\n' ∨ ' ' ≤ c ∧ c ≤ '~'

-- By name, since to go over the text is not the only way to decide this: there are finitely many
-- characters.
instance : DecidablePred IsWritten :=
  List.decidableBAll fun c => c = '\n' ∨ ' ' ≤ c ∧ c ≤ '~'

theorem isWritten_cons {c : Char} {s : List Char} :
    IsWritten (c :: s) ↔ IsWritten [c] ∧ IsWritten s := by
  simp [IsWritten]

theorem isWritten_append {s s' : List Char} :
    IsWritten (s ++ s') ↔ IsWritten s ∧ IsWritten s' :=
  List.forall_mem_append

theorem IsWritten.toNat_lt {c : Char} {s : List Char} (h : IsWritten s) (hc : c ∈ s) :
    c.toNat < 0x80 := by
  rcases h c hc with rfl | ⟨-, hle⟩
  · decide
  · exact Nat.lt_of_le_of_lt (show c.toNat ≤ ('~' : Char).toNat from hle) (by decide)

theorem isWritten_hexDigit : ∀ n < 16, IsWritten [hexDigit n] := by decide

theorem isWritten_hexDigits (width n : Nat) : IsWritten (hexDigits width n) := by
  induction width generalizing n with
  | zero => exact fun _ hc => absurd hc List.not_mem_nil
  | succ width ih =>
    exact isWritten_append.2 ⟨ih (n / 16), isWritten_hexDigit _ (Nat.mod_lt n (by decide))⟩

theorem isWritten_unicodeEscape (n : Nat) : IsWritten (unicodeEscape n) :=
  (isWritten_append (s := ['\\', 'u'])).2 ⟨by decide, isWritten_hexDigits 4 n⟩

theorem isWritten_escapedChar (c : Char) : IsWritten (escapedChar c) := by
  rcases escapedChar_cases c with ⟨x, htext, hx⟩ | ⟨htext, -, -, hplain⟩ | ⟨htext, -⟩ | ⟨htext, -⟩
  · obtain ⟨-, hle, hge, -⟩ := ascii_of_simpleEscape? hx
    rw [htext, isWritten_cons]
    exact ⟨by decide, List.forall_mem_singleton.2 (.inr ⟨hle, hge⟩)⟩
  · rw [htext]
    exact List.forall_mem_singleton.2 (.inr hplain)
  · rw [htext]
    exact isWritten_unicodeEscape _
  · rw [htext]
    exact isWritten_append.2 ⟨isWritten_unicodeEscape _, isWritten_unicodeEscape _⟩

theorem isWritten_stringText (s : String) : IsWritten (stringText s) := by
  refine isWritten_cons.2 ⟨by decide, isWritten_append.2 ⟨fun d hd => ?_, by decide⟩⟩
  obtain ⟨c, -, hd⟩ := List.mem_flatMap.1 hd
  exact isWritten_escapedChar c d hd

end Fingerprint.Json
