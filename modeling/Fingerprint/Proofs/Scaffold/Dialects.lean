/-
How the languages of the loaders read a backslash in a string literal. Both have
codes of hexadecimal digits and letters for control characters; any other
character stands for itself in a module for Node without the backslash
(`nodeEscape`), and in a script of the other loader with it (`pythonEscape`).
-/
import Fingerprint.Proofs.Scaffold.StringLiteral
import Fingerprint.Text.Digit

namespace Fingerprint.Scaffold

open Text

/-- The code that as many hexadecimal digits stand for behind a letter. -/
def hexCode (width : Nat) (s : List Char) : Option (List Nat × Nat) :=
  ((s.take width).mapM hexDigit?).bind fun ds =>
    if ds.length = width ∧ ofDigits 16 ds ≤ 0x10FFFF then some ([ofDigits 16 ds], width + 1)
    else none

/-- The codes of a code point in UTF-16. -/
def utf16 (n : Nat) : List Nat :=
  if n < 0x10000 then [n] else [0xD800 + (n - 0x10000) / 0x400, 0xDC00 + (n - 0x10000) % 0x400]

/-- The codes that hexadecimal digits in braces stand for behind a letter and the opening brace. -/
def bracedCode (s : List Char) : Option (List Nat × Nat) :=
  ((s.takeWhile (· ≠ '}')).mapM hexDigit?).bind fun ds =>
    if ds ≠ [] ∧ '}' ∈ s ∧ ofDigits 16 ds ≤ 0x10FFFF then
      some (utf16 (ofDigits 16 ds), ds.length + 3)
    else none

/-- The letters that make an escape of one code, in both dialects. -/
def escapeLetters : List (Char × Nat) :=
  [('b', 8), ('t', 9), ('n', 10), ('v', 11), ('f', 12), ('r', 13)]

/-- Whether a character ends a line of a script. -/
def isScriptBreak (c : Char) : Bool := c = '\n' || c = '\r' || c = '\u2028' || c = '\u2029'

/-- What a backslash makes of the text behind it in a module for Node. No digit makes an escape but
a lone zero, and any other character stands for itself without the backslash. -/
def nodeEscape : List Char → Option (List Nat × Nat)
  | [] => none
  | 'x' :: s => hexCode 2 s
  | 'u' :: '{' :: s => bracedCode s
  | 'u' :: s => hexCode 4 s
  | '\r' :: '\n' :: _ => some ([], 2)
  | c :: s =>
    if isScriptBreak c then some ([], 1)
    else if c.isDigit then if c = '0' ∧ ¬ s.head?.any Char.isDigit then some ([0], 1) else none
    else some ((escapeLetters.lookup c).elim (utf16 c.toNat) fun n => [n], 1)

theorem utf16_ne_nil (n : Nat) : utf16 n ≠ [] := by
  unfold utf16
  split <;> simp

theorem length_utf16_le (n : Nat) : (utf16 n).length ≤ 2 := by
  unfold utf16
  split <;> simp

section Module

variable {codes : Char → List Nat} {s : List Char} {v : List Nat} {n : Nat}

theorem length_le_flatMap (h : ∀ c, codes c ≠ []) (s : List Char) :
    s.length ≤ (s.flatMap codes).length := by
  induction s with
  | nil => exact Nat.le_refl _
  | cons c s ih =>
    have hc : 0 < (codes c).length := List.length_pos_iff.2 (h c)
    simp only [List.flatMap_cons, List.length_append, List.length_cons]
    omega

theorem hexCode_short (hcodes : ∀ c, codes c ≠ []) {width : Nat} (h : hexCode width s = some (v, n))
    (c : Char) : v.length ≤ (((c :: s).take n).flatMap codes).length := by
  obtain ⟨ds, -, hds⟩ := Option.bind_eq_some_iff.1 h
  obtain ⟨-, hvalue⟩ := Option.ite_none_right_eq_some.1 hds
  cases hvalue
  refine Nat.le_trans ?_ (length_le_flatMap hcodes _)
  simp

theorem bracedCode_short (hcodes : ∀ c, codes c ≠ []) (h : bracedCode s = some (v, n))
    (c d : Char) : v.length ≤ (((c :: d :: s).take n).flatMap codes).length := by
  obtain ⟨ds, -, hds⟩ := Option.bind_eq_some_iff.1 h
  obtain ⟨-, hvalue⟩ := Option.ite_none_right_eq_some.1 hds
  cases hvalue
  refine Nat.le_trans (length_utf16_le _) (Nat.le_trans ?_ (length_le_flatMap hcodes _))
  simp

theorem nodeEscape_short (h : nodeEscape s = some (v, n)) :
    v.length ≤ ((s.take n).flatMap fun c => utf16 c.toNat).length := by
  have hcodes : ∀ c : Char, utf16 c.toNat ≠ [] := fun c => utf16_ne_nil _
  have hstarts : ∀ (c : Char) (t : List Char),
      1 ≤ (((c :: t).take 1).flatMap fun c => utf16 c.toNat).length :=
    fun c _ => length_le_flatMap hcodes [c]
  unfold nodeEscape at h
  split at h
  next => cases h
  next => exact hexCode_short hcodes h 'x'
  next => exact bracedCode_short hcodes h 'u' '{'
  next => exact hexCode_short hcodes h 'u'
  next =>
    cases h
    exact Nat.zero_le _
  next c t _ _ _ _ =>
  split at h
  next =>
    cases h
    exact Nat.zero_le _
  next =>
  split at h
  next =>
    obtain ⟨-, hvalue⟩ := Option.ite_none_right_eq_some.1 h
    cases hvalue
    exact hstarts c t
  next =>
    cases h
    cases escapeLetters.lookup c with
    | none => simp
    | some n => exact hstarts c t

end Module

/-- Modules for Node, whose strings are of UTF-16 codes. -/
def Dialect.node : Dialect where
  codes c := utf16 c.toNat
  barred c := c = '\n' || c = '\r'
  inert _ := false
  escape := nodeEscape
  codes_ne_nil _ := utf16_ne_nil _
  backslash_not_barred := rfl
  plain_of_inert _ h := absurd h Bool.false_ne_true
  escape_inert _ _ h := absurd h Bool.false_ne_true
  escape_short _ _ _ h _ := nodeEscape_short h

/-- The octal digits. -/
def octalDigits : List Char := ['0', '1', '2', '3', '4', '5', '6', '7']

/-- The code that up to three octal digits stand for. -/
def octalCode (s : List Char) : Option (List Nat × Nat) :=
  let ds := (s.take 3).takeWhile (· ∈ octalDigits)
  some ([ofDigits 8 (ds.filterMap asciiDigit?)], ds.length)

/-- The code of a character by its name in braces, read behind a letter and the opening brace. -/
def namedCode (named : List Char → Option Char) (s : List Char) : Option (List Nat × Nat) :=
  let name := s.takeWhile fun c => c.isAlphanum || c = ' ' || c = '-'
  if (s.drop name.length).head? = some '}' then
    (named name).map fun c => ([c.toNat], name.length + 3)
  else none

/-- The characters that make an escape of one code in a script. -/
def scriptLetters : List (Char × Nat) :=
  escapeLetters ++ [('a', 7), ('"', 34), ('\'', 39), ('\\', 92)]

/-- The characters before which a backslash does not stand for itself. -/
def activeChars : List Char :=
  octalDigits ++ scriptLetters.map (·.1) ++ ['\x00', '\n', '\r', 'x', 'u', 'U', 'N']

/-- What a backslash makes of the text behind it in a script. -/
def pythonEscape (named : List Char → Option Char) : List Char → Option (List Nat × Nat)
  | [] => none
  | '\x00' :: _ => none
  | 'x' :: s => hexCode 2 s
  | 'u' :: s => hexCode 4 s
  | 'U' :: s => hexCode 8 s
  | 'N' :: '{' :: s => namedCode named s
  | 'N' :: _ => none
  | '\r' :: '\n' :: _ => some ([], 2)
  | c :: s =>
    if c = '\n' ∨ c = '\r' then some ([], 1)
    else if c ∈ octalDigits then octalCode (c :: s)
    else some ((scriptLetters.lookup c).elim ['\\'.toNat, c.toNat] fun n => [n], 1)

section Script

variable {named : List Char → Option Char} {s : List Char} {v : List Nat} {n : Nat} {c : Char}

theorem lookup_eq_none_iff_not_mem (l : List (Char × Nat)) :
    l.lookup c = none ↔ c ∉ l.map (·.1) := by
  rw [List.lookup_eq_none_iff]
  simp only [List.mem_map, not_exists, not_and, bne_iff_ne]
  exact forall₂_congr fun p _ => ne_comm

theorem pythonEscape_inert (h : c ∉ activeChars) (s : List Char) :
    pythonEscape named (c :: s) = some (['\\'.toNat, c.toNat], 1) := by
  have hletter : scriptLetters.lookup c = none := by
    refine (lookup_eq_none_iff_not_mem _).2 fun hc => h ?_
    simp only [activeChars, List.mem_append, hc, or_true, true_or]
  have hoctal : c ∉ octalDigits := fun hc => h (by simp [activeChars, hc])
  have hbreak : ¬ (c = '\n' ∨ c = '\r') := by
    rintro (rfl | rfl)
    · exact h (by decide)
    · exact h (by decide)
  unfold pythonEscape
  split
  case h_9 he =>
    cases he
    rw [if_neg hbreak, if_neg hoctal, hletter]
    rfl
  all_goals
    rename_i he
    cases he
  -- What is left are the patterns of a fixed character, none of which a backslash stands before.
  all_goals exact absurd (by decide) h

theorem namedCode_short (h : namedCode named s = some (v, n)) (c d : Char) :
    v.length ≤ (((c :: d :: s).take n).flatMap fun c => [c.toNat]).length := by
  obtain ⟨-, hname⟩ := Option.ite_none_right_eq_some.1 h
  obtain ⟨x, -, hx⟩ := Option.map_eq_some_iff.1 hname
  cases hx
  simp

theorem pythonEscape_short (h : pythonEscape named s = some (v, n))
    (hactive : ∀ c ∈ s.head?, c ∈ activeChars) :
    v.length ≤ ((s.take n).flatMap fun c => [c.toNat]).length := by
  have hcodes : ∀ c : Char, [c.toNat] ≠ [] := by simp
  unfold pythonEscape at h
  split at h
  next => cases h
  next => cases h
  next => exact hexCode_short hcodes h 'x'
  next => exact hexCode_short hcodes h 'u'
  next => exact hexCode_short hcodes h 'U'
  next => exact namedCode_short h 'N' '{'
  next => cases h
  next =>
    cases h
    exact Nat.zero_le _
  next c s hnul hx hu hU _ hN _ =>
  split at h
  next =>
    cases h
    exact Nat.zero_le _
  next hbreak =>
  split at h
  next hoctal =>
    cases h
    simp [hoctal]
  next hoctal =>
    cases hletter : scriptLetters.lookup c with
    | some n =>
      rw [hletter] at h
      cases h
      simp
    | none =>
      have hc := hactive c rfl
      simp only [activeChars, List.mem_append, hoctal, (lookup_eq_none_iff_not_mem _).1 hletter,
        false_or, List.mem_cons, List.not_mem_nil, or_false] at hc
      obtain hc | hc | hc | hc | hc | hc | hc := hc
      exacts [(hnul hc).elim, absurd (.inl hc) hbreak, absurd (.inr hc) hbreak, (hx hc).elim,
        (hu hc).elim, (hU hc).elim, (hN hc).elim]

end Script

/-- Scripts, whose strings are of code points. Characters are named by the Unicode tables. -/
def Dialect.python (named : List Char → Option Char) : Dialect where
  codes c := [c.toNat]
  barred c := c = '\n' || c = '\r' || c = '\x00'
  inert c := c ∉ activeChars
  escape := pythonEscape named
  codes_ne_nil _ := by simp
  backslash_not_barred := rfl
  plain_of_inert c h := by
    have hc : c ∉ activeChars := by simpa using h
    have hactive : ∀ x ∈ activeChars, c ≠ x := fun x hx he => hc (he ▸ hx)
    refine ⟨hactive _ (by decide), hactive _ (by decide), ?_⟩
    simp [hactive '\n' (by decide), hactive '\r' (by decide), hactive '\x00' (by decide)]
  escape_inert c s h := pythonEscape_inert (by simpa using h) s
  escape_short _ _ _ h hactive := pythonEscape_short h (by simpa using hactive)

end Fingerprint.Scaffold
