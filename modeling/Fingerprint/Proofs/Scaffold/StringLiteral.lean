/-
String literals in single quotes, as the languages of the loaders read them. A
literal ends at the first quote that no backslash takes, no line break stands in
it, and what a backslash makes of the text behind it is the language's own
(`Dialect`). An escape denotes fewer codes than it is written with, so a text
between quotes denotes itself only if no backslash in it makes an escape
(`Dialect.readBody_eq_value_iff`).
-/
import Mathlib.Data.List.Induction

namespace Fingerprint.Scaffold

/-- How a language reads literals in single quotes. -/
structure Dialect where
  /-- The codes of a character in the value of a literal. -/
  codes : Char → List Nat
  /-- Whether a character cannot stand in a literal. -/
  barred : Char → Bool
  /-- Whether a backslash before the character stands for itself. -/
  inert : Char → Bool
  /-- What a backslash makes of the text behind it: the codes, and how many characters it takes. -/
  escape : List Char → Option (List Nat × Nat)
  codes_ne_nil : ∀ c, codes c ≠ []
  backslash_not_barred : barred '\\' = false
  plain_of_inert : ∀ c, inert c = true → c ≠ '\'' ∧ c ≠ '\\' ∧ barred c = false
  escape_inert : ∀ c s, inert c = true → escape (c :: s) = some (codes '\\' ++ codes c, 1)
  escape_short : ∀ s v n, escape s = some (v, n) → (∀ c ∈ s.head?, inert c = false) →
    v.length ≤ ((s.take n).flatMap codes).length

namespace Dialect

variable (d : Dialect)

/-- The codes of a text. -/
def value (s : List Char) : List Nat := s.flatMap d.codes

/-- Puts codes before what has been read. -/
def prepend (v : List Nat) (r : Option (List Nat × List Char)) : Option (List Nat × List Char) :=
  r.map fun p => (v ++ p.1, p.2)

/-- Reads a literal behind its opening quote, up to and over the closing one, as its value and what
follows it. The number counts the characters that the last escape still takes. -/
def readBody : Nat → List Char → Option (List Nat × List Char)
  | _, [] => none
  | n + 1, _ :: s => readBody n s
  | 0, c :: s =>
    if c = '\'' then some ([], s)
    else if c = '\\' then (d.escape s).bind fun e => prepend e.1 (readBody e.2 s)
    else if d.barred c then none
    else prepend (d.codes c) (readBody 0 s)

/-- Reads a literal. -/
def readLiteral : List Char → Option (List Nat × List Char)
  | '\'' :: s => d.readBody 0 s
  | _ => none

/-- Whether a text denotes itself between quotes: it holds no quote and nothing that cannot stand in
a literal, and behind each backslash something that makes no escape with it. -/
def IsVerbatim : List Char → Prop
  | [] => True
  | c :: s => (c ≠ '\'' ∧ d.barred c = false ∧ (c = '\\' → s.head?.any d.inert = true)) ∧
    IsVerbatim s

instance decidableIsVerbatim : (s : List Char) → Decidable (d.IsVerbatim s)
  | [] => .isTrue trivial
  | _ :: s =>
    haveI := decidableIsVerbatim s
    inferInstanceAs (Decidable (_ ∧ _))

variable {d} {a s t rest : List Char} {c : Char} {v : List Nat}

theorem prepend_prepend (v w : List Nat) (r : Option (List Nat × List Char)) :
    prepend v (prepend w r) = prepend (v ++ w) r := by
  cases r <;> simp [prepend]

theorem readBody_quote (s : List Char) : d.readBody 0 ('\'' :: s) = some ([], s) := rfl

theorem readBody_barred (hbarred : d.barred c = true) (hquote : c ≠ '\'') (s : List Char) :
    d.readBody 0 (c :: s) = none := by
  have hslash : c ≠ '\\' := by
    rintro rfl
    rw [d.backslash_not_barred] at hbarred
    cases hbarred
  simp [readBody, hquote, hslash, hbarred]

theorem readBody_plain (hquote : c ≠ '\'') (hslash : c ≠ '\\') (hbarred : d.barred c = false)
    (s : List Char) : d.readBody 0 (c :: s) = prepend (d.codes c) (d.readBody 0 s) := by
  simp [readBody, hquote, hslash, hbarred]

theorem readBody_inert (h : d.inert c = true) (s : List Char) :
    d.readBody 0 ('\\' :: c :: s) = prepend (d.value ['\\', c]) (d.readBody 0 s) := by
  simp [readBody, d.escape_inert c s h, value]

/-- **A text that denotes itself is read as it stands**, whatever follows it. -/
theorem readBody_verbatim_append (h : d.IsVerbatim a) (t : List Char) :
    d.readBody 0 (a ++ t) = prepend (d.value a) (d.readBody 0 t) := by
  induction a using List.twoStepInduction with
  | nil => cases hread : d.readBody 0 t <;> simp [prepend, value, hread]
  | singleton c =>
    obtain ⟨⟨hquote, hbarred, hescape⟩, -⟩ := h
    have hslash : c ≠ '\\' := fun hc => by simpa using hescape hc
    simpa [value] using readBody_plain hquote hslash hbarred t
  | cons_cons c x a ih ihx =>
    obtain ⟨⟨hquote, hbarred, hescape⟩, hrest⟩ := h
    by_cases hslash : c = '\\'
    · subst hslash
      have hx : d.inert x = true := by simpa using hescape rfl
      rw [List.cons_append, List.cons_append, readBody_inert hx, ih hrest.2, prepend_prepend]
      simp [value]
    · rw [List.cons_append, readBody_plain hquote hslash hbarred, ihx x hrest, prepend_prepend]
      simp [value]

/-- Whether codes can be read from a text between quotes: those of the text if it denotes itself, or
fewer than it has. -/
def IsReading (d : Dialect) (body : List Char) (v : List Nat) : Prop :=
  d.IsVerbatim body ∧ v = d.value body ∨ v.length < (d.value body).length

theorem IsReading.plain (h : d.IsReading s v) (hquote : c ≠ '\'') (hslash : c ≠ '\\')
    (hbarred : d.barred c = false) : d.IsReading (c :: s) (d.codes c ++ v) := by
  obtain ⟨hs, rfl⟩ | hfewer := h
  · exact .inl ⟨⟨⟨hquote, hbarred, fun hc => absurd hc hslash⟩, hs⟩, rfl⟩
  · exact .inr (by simpa [value] using hfewer)

theorem IsReading.inert (h : d.IsReading s v) (hc : d.inert c = true) :
    d.IsReading ('\\' :: c :: s) (d.codes '\\' ++ d.codes c ++ v) := by
  obtain ⟨hquote, hslash, hbarred⟩ := d.plain_of_inert c hc
  obtain ⟨hs, rfl⟩ | hfewer := h
  · have hrest : d.IsVerbatim (c :: s) := ⟨⟨hquote, hbarred, fun hc => absurd hc hslash⟩, hs⟩
    refine .inl ⟨⟨⟨by decide, d.backslash_not_barred, fun _ => hc⟩, hrest⟩, ?_⟩
    simp [value]
  · refine .inr ?_
    simpa [value, Nat.add_assoc] using hfewer

theorem IsReading.escape {w : List Nat} (h : d.IsReading s v)
    (hshort : w.length ≤ (d.value t).length) : d.IsReading ('\\' :: (t ++ s)) (w ++ v) := by
  have hs : v.length ≤ (d.value s).length := by
    obtain ⟨-, rfl⟩ | hfewer := h
    · exact Nat.le_refl _
    · exact Nat.le_of_lt hfewer
  have hslash : 0 < (d.codes '\\').length := List.length_pos_iff.2 (d.codes_ne_nil _)
  refine .inr ?_
  simp only [value, List.flatMap_cons, List.flatMap_append, List.length_append] at *
  omega

/-- A backslash and what it takes of a text are part of the body before the same quote. -/
theorem exists_body_of_escape {w : List Nat} {n : Nat} (hescape : d.escape s = some (w, n))
    (hbody : s.drop n = a ++ '\'' :: rest) (h : d.IsReading a v) :
    ∃ body, '\\' :: s = body ++ '\'' :: rest ∧ d.IsReading body (w ++ v) := by
  have hs : s = s.take n ++ (a ++ '\'' :: rest) := by rw [← hbody, List.take_append_drop]
  by_cases hmakes : ∀ x ∈ s.head?, d.inert x = false
  · refine ⟨'\\' :: (s.take n ++ a), ?_, h.escape (d.escape_short s w n hescape hmakes)⟩
    rw [List.cons_append, List.append_assoc, ← hs]
  · obtain ⟨x, hhead, hx⟩ : ∃ x, s.head? = some x ∧ d.inert x = true := by simpa using hmakes
    obtain ⟨t, rfl⟩ := List.head?_eq_some_iff.1 hhead
    rw [d.escape_inert x t hx] at hescape
    cases hescape
    refine ⟨'\\' :: x :: a, ?_, h.inert hx⟩
    rw [hs]
    rfl

/-- What a literal is read from: the text before its closing quote. -/
theorem exists_body_of_readBody {n : Nat} (h : d.readBody n s = some (v, rest)) :
    ∃ body, s.drop n = body ++ '\'' :: rest ∧ d.IsReading body v := by
  induction s generalizing n v with
  | nil => cases n <;> cases h
  | cons c s ih =>
    cases n with
    | succ n => exact ih h
    | zero =>
      rw [readBody] at h
      split at h
      next hquote =>
        cases h
        exact ⟨[], by rw [hquote]; rfl, .inl ⟨trivial, rfl⟩⟩
      next hquote =>
      split at h
      next hslash =>
        obtain ⟨⟨w, n⟩, hescape, hread⟩ := Option.bind_eq_some_iff.1 h
        obtain ⟨⟨u, left⟩, hu, hw⟩ := Option.map_eq_some_iff.1 hread
        cases hw
        obtain ⟨body, hbody, hreading⟩ := ih hu
        rw [hslash]
        exact exists_body_of_escape hescape hbody hreading
      next hslash =>
      split at h
      next hbarred => cases h
      next hbarred =>
        obtain ⟨⟨u, left⟩, hu, hw⟩ := Option.map_eq_some_iff.1 h
        cases hw
        obtain ⟨body, hbody, hreading⟩ := ih hu
        have hplain : d.barred c = false := by simpa using hbarred
        exact ⟨c :: body, by simpa using hbody, hreading.plain hquote hslash hplain⟩

/-- **A text between quotes is read as itself iff it denotes itself.** -/
theorem readBody_eq_value_iff : d.readBody 0 (s ++ '\'' :: rest) = some (d.value s, rest) ↔
    d.IsVerbatim s := by
  refine ⟨fun h => ?_, fun h => ?_⟩
  · obtain ⟨body, hbody, hdenotes⟩ := exists_body_of_readBody h
    have hs : s = body := List.append_cancel_right hbody
    subst hs
    obtain ⟨hverbatim, -⟩ | hfewer := hdenotes
    · exact hverbatim
    · exact absurd hfewer (Nat.lt_irrefl _)
  · rw [readBody_verbatim_append h, readBody_quote]
    simp [prepend]

end Dialect

end Fingerprint.Scaffold
