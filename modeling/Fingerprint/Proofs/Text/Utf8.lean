/-
UTF-8 both ways. The bytes of a text are read back as this text, and bytes that
are read as a text are its bytes, so the bytes that have no flaw are those of
texts (`decode_eq_ok_iff`). Both come from the same of one character
(`pieceAt_encodeChar`, `encodeChar_of_pieceAt`).
-/
import Fingerprint.Text.Utf8

namespace Fingerprint.Text.Utf8

variable {b : UInt8} {rest bytes : List UInt8} {c : Char} {cs : List Char} {n k : Nat}

theorem toNat_toUInt8 (h : n < 0x100) : n.toUInt8.toNat = n := by
  rw [Nat.toUInt8, UInt8.toNat_ofNat']
  omega

theorem toUInt8_eq (h : b.toNat = n) : n.toUInt8 = b := by
  rw [← h]
  exact UInt8.ofNat_toNat

theorem lead?_one (h : b.toNat < 0x80) : lead? b = some ⟨0, 0x80, 0xBF, b.toNat⟩ := by
  simp [lead?, UInt8.lt_iff_toNat_lt, h]

theorem lead?_two (h : 0xC2 ≤ b.toNat) (h' : b.toNat < 0xE0) :
    lead? b = some ⟨1, 0x80, 0xBF, b.toNat - 0xC0⟩ := by
  have hone : ¬ b.toNat < 0x80 := by omega
  have hnone : ¬ b.toNat < 0xC2 := by omega
  simp [lead?, UInt8.lt_iff_toNat_lt, hone, hnone, h']

theorem lead?_three (h : 0xE0 ≤ b.toNat) (h' : b.toNat < 0xF0) :
    lead? b = some ⟨2, if b.toNat = 0xE0 then 0xA0 else 0x80, if b.toNat = 0xED then 0x9F else 0xBF,
      b.toNat - 0xE0⟩ := by
  have hone : ¬ b.toNat < 0x80 := by omega
  have hnone : ¬ b.toNat < 0xC2 := by omega
  have htwo : ¬ b.toNat < 0xE0 := by omega
  simp [lead?, UInt8.lt_iff_toNat_lt, hone, hnone, htwo, h', ← UInt8.toNat_inj]

theorem lead?_four (h : 0xF0 ≤ b.toNat) (h' : b.toNat < 0xF5) :
    lead? b = some ⟨3, if b.toNat = 0xF0 then 0x90 else 0x80, if b.toNat = 0xF4 then 0x8F else 0xBF,
      b.toNat - 0xF0⟩ := by
  have hone : ¬ b.toNat < 0x80 := by omega
  have hnone : ¬ b.toNat < 0xC2 := by omega
  have htwo : ¬ b.toNat < 0xE0 := by omega
  have hthree : ¬ b.toNat < 0xF0 := by omega
  simp [lead?, UInt8.lt_iff_toNat_lt, hone, hnone, htwo, hthree, h', ← UInt8.toNat_inj]

theorem lead?_none (h : 0x80 ≤ b.toNat ∧ b.toNat < 0xC2 ∨ 0xF5 ≤ b.toNat) : lead? b = none := by
  rcases h with ⟨hlow, hhigh⟩ | h
  · have hone : ¬ b.toNat < 0x80 := by omega
    simp [lead?, UInt8.lt_iff_toNat_lt, hone, hhigh]
  · have hone : ¬ b.toNat < 0x80 := by omega
    have hnone : ¬ b.toNat < 0xC2 := by omega
    have htwo : ¬ b.toNat < 0xE0 := by omega
    have hthree : ¬ b.toNat < 0xF0 := by omega
    have hfour : ¬ b.toNat < 0xF5 := by omega
    simp [lead?, UInt8.lt_iff_toNat_lt, hone, hnone, htwo, hthree, hfour]

theorem lead?_bounds {l : Lead} (h : lead? b = some l) :
    0x80 ≤ l.low.toNat ∧ l.high.toNat ≤ 0xBF := by
  unfold lead? at h
  repeat' split at h
  all_goals cases h <;> simp

theorem continuation_cons {low high : UInt8} {bits : Nat} (h : low.toNat ≤ b.toNat)
    (h' : b.toNat ≤ high.toNat) : continuation low high (n + 1) bits (b :: rest) =
      ((continuation 0x80 0xBF n (bits * 0x40 + (b.toNat - 0x80)) rest).1 + 1,
        (continuation 0x80 0xBF n (bits * 0x40 + (b.toNat - 0x80)) rest).2) := by
  rw [continuation, if_pos ⟨UInt8.le_iff_toNat_le.2 h, UInt8.le_iff_toNat_le.2 h'⟩]

theorem pieceAt_of_lead? {l : Lead} (h : lead? b = some l)
    (hc : continuation l.low l.high l.extra l.bits rest = (l.extra, c.toNat)) :
    pieceAt b rest = (.char c, l.extra) := by
  simp [pieceAt, h, hc]

theorem toNat_scalar (c : Char) : c.toNat < 0xD800 ∨ 0xDFFF < c.toNat ∧ c.toNat < 0x110000 :=
  c.valid

/-- **The bytes of a character are read as this character.** -/
theorem pieceAt_encodeChar (c : Char) : ∃ b tail, encodeChar c = b :: tail ∧
    ∀ rest, pieceAt b (tail ++ rest) = (.char c, tail.length) := by
  -- One case for each number of bytes. That no surrogate is a character matters to three bytes, and
  -- that the last character is U+10FFFF to four.
  have hscalar := toNat_scalar c
  unfold encodeChar
  simp only
  split
  next hone =>
    refine ⟨_, [], rfl, fun rest => ?_⟩
    have hb := toNat_toUInt8 (n := c.toNat) (by omega)
    refine pieceAt_of_lead? (lead?_one (by omega)) ?_
    rw [continuation, hb]
  next hone =>
    split
    next htwo =>
      refine ⟨_, [_], rfl, fun rest => ?_⟩
      have hb := toNat_toUInt8 (n := 0xC0 + c.toNat / 0x40) (by omega)
      have hb1 := toNat_toUInt8 (n := 0x80 + c.toNat % 0x40) (by omega)
      refine pieceAt_of_lead? (lead?_two (by omega) (by omega)) ?_
      simp only [List.cons_append, List.nil_append]
      rw [continuation_cons (by simp; omega) (by simp; omega), continuation, hb, hb1]
      simp only [Prod.mk.injEq, true_and]
      omega
    next htwo =>
      split
      next hthree =>
        refine ⟨_, [_, _], rfl, fun rest => ?_⟩
        have hb := toNat_toUInt8 (n := 0xE0 + c.toNat / 0x1000) (by omega)
        have hb1 := toNat_toUInt8 (n := 0x80 + c.toNat / 0x40 % 0x40) (by omega)
        have hb2 := toNat_toUInt8 (n := 0x80 + c.toNat % 0x40) (by omega)
        refine pieceAt_of_lead? (lead?_three (by omega) (by omega)) ?_
        simp only [List.cons_append, List.nil_append]
        rw [continuation_cons (by split <;> simp <;> omega) (by split <;> simp <;> omega),
          continuation_cons (by simp; omega) (by simp; omega), continuation, hb, hb1, hb2]
        simp only [Prod.mk.injEq, true_and]
        omega
      next hthree =>
        refine ⟨_, [_, _, _], rfl, fun rest => ?_⟩
        have hb := toNat_toUInt8 (n := 0xF0 + c.toNat / 0x40000) (by omega)
        have hb1 := toNat_toUInt8 (n := 0x80 + c.toNat / 0x1000 % 0x40) (by omega)
        have hb2 := toNat_toUInt8 (n := 0x80 + c.toNat / 0x40 % 0x40) (by omega)
        have hb3 := toNat_toUInt8 (n := 0x80 + c.toNat % 0x40) (by omega)
        refine pieceAt_of_lead? (lead?_four (by omega) (by omega)) ?_
        simp only [List.cons_append, List.nil_append]
        rw [continuation_cons (by split <;> simp <;> omega) (by split <;> simp <;> omega),
          continuation_cons (by simp; omega) (by simp; omega),
          continuation_cons (by simp; omega) (by simp; omega), continuation, hb, hb1, hb2, hb3]
        simp only [Prod.mk.injEq, true_and]
        omega

theorem continuation_eq {low high : UInt8} {bits v : Nat}
    (h : continuation low high (n + 1) bits rest = (n + 1, v)) :
    ∃ b tail, rest = b :: tail ∧ low.toNat ≤ b.toNat ∧ b.toNat ≤ high.toNat ∧
      continuation 0x80 0xBF n (bits * 0x40 + (b.toNat - 0x80)) tail = (n, v) := by
  cases rest with
  | nil => cases h
  | cons b tail =>
    unfold continuation at h
    split at h
    next hb =>
      simp only [Prod.mk.injEq, Nat.add_right_cancel_iff] at h
      exact ⟨b, tail, rfl, UInt8.le_iff_toNat_le.1 hb.1, UInt8.le_iff_toNat_le.1 hb.2,
        Prod.ext h.1 h.2⟩
    next => cases h

theorem eq_of_continuation {low high : UInt8} {bits v : Nat}
    (h : continuation low high 0 bits rest = (0, v)) : bits = v := by
  simpa [continuation] using h

theorem toNat_ofNat (h : n < 0xD800 ∨ 0xDFFF < n ∧ n < 0x110000) : (Char.ofNat n).toNat = n := by
  rw [Char.ofNat, dif_pos h]
  rfl

theorem encodeChar_one (h : b.toNat < 0x80) : encodeChar (Char.ofNat b.toNat) = [b] := by
  have hv := toNat_ofNat (n := b.toNat) (by omega)
  simp only [encodeChar, hv]
  rw [if_pos h, toUInt8_eq rfl]

theorem encodeChar_two {b1 : UInt8} {v : Nat} (h : 0xC2 ≤ b.toNat ∧ b.toNat < 0xE0)
    (h1 : 0x80 ≤ b1.toNat ∧ b1.toNat ≤ 0xBF)
    (hv : (b.toNat - 0xC0) * 0x40 + (b1.toNat - 0x80) = v) :
    encodeChar (Char.ofNat v) = [b, b1] := by
  simp only [encodeChar, toNat_ofNat (n := v) (by omega)]
  rw [if_neg (by omega), if_pos (by omega), toUInt8_eq (b := b) (by omega),
    toUInt8_eq (b := b1) (by omega)]

theorem encodeChar_three {b1 b2 : UInt8} {v : Nat} (h : 0xE0 ≤ b.toNat ∧ b.toNat < 0xF0)
    (h1 : 0x80 ≤ b1.toNat ∧ b1.toNat ≤ 0xBF) (h2 : 0x80 ≤ b2.toNat ∧ b2.toNat ≤ 0xBF)
    (hlow : b.toNat = 0xE0 → 0xA0 ≤ b1.toNat) (hhigh : b.toNat = 0xED → b1.toNat ≤ 0x9F)
    (hv : ((b.toNat - 0xE0) * 0x40 + (b1.toNat - 0x80)) * 0x40 + (b2.toNat - 0x80) = v) :
    encodeChar (Char.ofNat v) = [b, b1, b2] := by
  simp only [encodeChar, toNat_ofNat (n := v) (by omega)]
  rw [if_neg (by omega), if_neg (by omega), if_pos (by omega), toUInt8_eq (b := b) (by omega),
    toUInt8_eq (b := b1) (by omega), toUInt8_eq (b := b2) (by omega)]

theorem encodeChar_four {b1 b2 b3 : UInt8} {v : Nat} (h : 0xF0 ≤ b.toNat ∧ b.toNat < 0xF5)
    (h1 : 0x80 ≤ b1.toNat ∧ b1.toNat ≤ 0xBF) (h2 : 0x80 ≤ b2.toNat ∧ b2.toNat ≤ 0xBF)
    (h3 : 0x80 ≤ b3.toNat ∧ b3.toNat ≤ 0xBF) (hlow : b.toNat = 0xF0 → 0x90 ≤ b1.toNat)
    (hhigh : b.toNat = 0xF4 → b1.toNat ≤ 0x8F)
    (hv : (((b.toNat - 0xF0) * 0x40 + (b1.toNat - 0x80)) * 0x40 + (b2.toNat - 0x80)) * 0x40 +
      (b3.toNat - 0x80) = v) : encodeChar (Char.ofNat v) = [b, b1, b2, b3] := by
  simp only [encodeChar, toNat_ofNat (n := v) (by omega)]
  rw [if_neg (by omega), if_neg (by omega), if_neg (by omega), toUInt8_eq (b := b) (by omega),
    toUInt8_eq (b := b1) (by omega), toUInt8_eq (b := b2) (by omega),
    toUInt8_eq (b := b3) (by omega)]

/-- Bytes that fill what a first byte asks for are those of a character. -/
theorem encodeChar_of_continuation {l : Lead} {v : Nat} (hl : lead? b = some l)
    (h : continuation l.low l.high l.extra l.bits rest = (l.extra, v)) :
    ∃ tail more, rest = tail ++ more ∧ tail.length = l.extra ∧
      encodeChar (Char.ofNat v) = b :: tail := by
  have hbounds := lead?_bounds hl
  by_cases hnone : 0x80 ≤ b.toNat ∧ b.toNat < 0xC2 ∨ 0xF5 ≤ b.toNat
  · rw [lead?_none hnone] at hl
    cases hl
  have hrange : b.toNat < 0x80 ∨ (0xC2 ≤ b.toNat ∧ b.toNat < 0xE0) ∨
      (0xE0 ≤ b.toNat ∧ b.toNat < 0xF0) ∨ (0xF0 ≤ b.toNat ∧ b.toNat < 0xF5) := by omega
  rcases hrange with hone | htwo | hthree | hfour
  · cases (lead?_one hone).symm.trans hl
    cases h
    exact ⟨[], rest, rfl, rfl, encodeChar_one hone⟩
  · cases (lead?_two htwo.1 htwo.2).symm.trans hl
    obtain ⟨b1, more, rfl, hlow, hhigh, h⟩ := continuation_eq h
    exact ⟨[b1], more, rfl, rfl, encodeChar_two htwo ⟨hlow, hhigh⟩ (eq_of_continuation h)⟩
  · cases (lead?_three hthree.1 hthree.2).symm.trans hl
    obtain ⟨b1, rest, rfl, hlow, hhigh, h⟩ := continuation_eq h
    obtain ⟨b2, more, rfl, hlow2, hhigh2, h⟩ := continuation_eq h
    have h1 := And.intro (Nat.le_trans hbounds.1 hlow) (Nat.le_trans hhigh hbounds.2)
    refine ⟨[b1, b2], more, rfl, rfl,
      encodeChar_three hthree h1 ⟨hlow2, hhigh2⟩ ?_ ?_ (eq_of_continuation h)⟩
    · intro hb
      rwa [if_pos hb] at hlow
    · intro hb
      rwa [if_pos hb] at hhigh
  · cases (lead?_four hfour.1 hfour.2).symm.trans hl
    obtain ⟨b1, rest, rfl, hlow, hhigh, h⟩ := continuation_eq h
    obtain ⟨b2, rest, rfl, hlow2, hhigh2, h⟩ := continuation_eq h
    obtain ⟨b3, more, rfl, hlow3, hhigh3, h⟩ := continuation_eq h
    have h1 := And.intro (Nat.le_trans hbounds.1 hlow) (Nat.le_trans hhigh hbounds.2)
    refine ⟨[b1, b2, b3], more, rfl, rfl,
      encodeChar_four hfour h1 ⟨hlow2, hhigh2⟩ ⟨hlow3, hhigh3⟩ ?_ ?_ (eq_of_continuation h)⟩
    · intro hb
      rwa [if_pos hb] at hlow
    · intro hb
      rwa [if_pos hb] at hhigh

/-- **What is read as a character is the bytes of it.** -/
theorem encodeChar_of_pieceAt (h : pieceAt b rest = (.char c, k)) :
    ∃ tail more, rest = tail ++ more ∧ tail.length = k ∧ encodeChar c = b :: tail := by
  unfold pieceAt at h
  split at h
  next => cases h
  next l hl =>
    simp only at h
    split at h
    next hall =>
      simp only [Prod.mk.injEq, Piece.char.injEq] at h
      obtain ⟨rfl, rfl⟩ := h
      rw [hall]
      exact encodeChar_of_continuation hl (Prod.ext hall rfl)
    next => split at h <;> cases h

theorem piecesAfter_append (tail rest : List UInt8) :
    piecesAfter tail.length (tail ++ rest) = pieces rest := by
  induction tail with
  | nil => rfl
  | cons b tail ih => exact ih

/-- **The bytes of a text are read as this text.** -/
theorem pieces_encode (cs : List Char) : pieces (encode cs) = cs.map .char := by
  induction cs with
  | nil => rfl
  | cons c cs ih =>
    obtain ⟨b, tail, hbytes, hpiece⟩ := pieceAt_encodeChar c
    have hencode : encode (c :: cs) = b :: (tail ++ encode cs) := by
      rw [encode, List.flatMap_cons, hbytes]
      rfl
    rw [hencode, pieces, piecesAfter, hpiece, piecesAfter_append, ih, List.map_cons]

theorem decodeLossy_encode (cs : List Char) : decodeLossy (encode cs) = cs := by
  rw [decodeLossy, pieces_encode, List.map_map]
  exact List.map_id cs

/-- **Bytes that are read as a text are the bytes of it.** -/
theorem encode_of_pieces (h : pieces bytes = cs.map .char) : encode cs = bytes := by
  induction cs generalizing bytes with
  | nil =>
    cases bytes with
    | nil => rfl
    | cons b rest => cases h
  | cons c cs ih =>
    cases bytes with
    | nil => cases h
    | cons b rest =>
      rw [pieces, piecesAfter, List.map_cons, List.cons.injEq] at h
      have hpiece : pieceAt b rest = (.char c, (pieceAt b rest).2) := Prod.ext h.1 rfl
      obtain ⟨tail, more, rfl, hlen, hbytes⟩ := encodeChar_of_pieceAt hpiece
      rw [← hlen, piecesAfter_append] at h
      rw [encode, List.flatMap_cons, hbytes, List.cons_append]
      exact congrArg (b :: tail ++ ·) (ih h.2)

theorem textOf_map_char (position : Nat) (cs : List Char) :
    textOf position (cs.map .char) = .ok cs := by
  induction cs generalizing position with
  | nil => rfl
  | cons c cs ih =>
    rw [List.map_cons, textOf, ih]
    rfl

theorem pieces_of_textOf {position : Nat} {ps : List Piece} (h : textOf position ps = .ok cs) :
    ps = cs.map .char := by
  fun_induction textOf position ps generalizing cs with
  | case1 =>
    cases h
    rfl
  | case2 => cases h
  | case3 position c ps ih =>
    cases htext : textOf (position + (encodeChar c).length) ps with
    | error f =>
      rw [htext] at h
      cases h
    | ok ds =>
      rw [htext] at h
      cases h
      rw [ih htext, List.map_cons]

/-- **Bytes have no flaw iff they are those of a text**, which they are read as. -/
theorem decode_eq_ok_iff : decode bytes = .ok cs ↔ encode cs = bytes := by
  have hdecode : decode bytes = .ok cs ↔ textOf 0 (pieces bytes) = .ok cs := by
    rw [decode]
    cases textOf 0 (pieces bytes) with
    | error f => constructor <;> (intro h; cases h)
    | ok ds => constructor <;> (intro h; cases h; rfl)
  rw [hdecode]
  constructor
  · exact fun htext => encode_of_pieces (pieces_of_textOf htext)
  · rintro rfl
    rw [pieces_encode, textOf_map_char]

end Fingerprint.Text.Utf8
