/-
What is written as a string or a key is read back as it was. A string between
its quotes is read up to exactly its closing quote whatever follows
(`basicTail_quoted`), and it holds no control character, so that it stays on
its line. A key is read back as the one name that it is (`readKey_formatKey`),
but for a bare name with a line feed at its end, which is written bare and is
no key.
-/
import Mathlib.Data.List.TakeWhile
import Fingerprint.Toml.Keys

namespace Fingerprint.Toml

open Text

theorem hexDigit?_upperHexDigit : ∀ n < 16, hexDigit? (upperHexDigit n) = some n := by decide

theorem hexChar_controlCode {c : Char} (h : c.toNat < 256) (here rest : List Char) :
    hexChar ['0', '0', upperHexDigit (c.toNat / 16), upperHexDigit (c.toNat % 16)] here rest =
      .ok c := by
  have hhi := hexDigit?_upperHexDigit (c.toNat / 16) (by omega)
  have hlo := hexDigit?_upperHexDigit (c.toNat % 16) (by omega)
  have h0 : hexDigit? '0' = some 0 := by decide
  have hv : ofDigits 16 [0, 0, c.toNat / 16, c.toNat % 16] = c.toNat := by
    simp only [ofDigits, List.foldl_cons, List.foldl_nil]
    omega
  simp only [hexChar, List.mapM_cons, List.mapM_nil, h0, hhi, hlo, Option.pure_def,
    Option.bind_eq_bind, Option.bind_some]
  rw [hv, if_pos (.inl (by omega)), Char.ofNat_toNat]

theorem isControl_upperHexDigit : ∀ n < 16, isControl (upperHexDigit n) = false := by decide

theorem isControl_of_simpleEscape? {x c : Char} (h : simpleEscape? x = some c) :
    isControl x = false := by
  unfold simpleEscape? at h
  split at h <;> first | rfl | cases h

theorem escapedChar_cases (c : Char) :
    (∃ x, escapedChar c = ['\\', x] ∧ simpleEscape? x = some c) ∨
    (c.toNat < 256 ∧ escapedChar c =
      ['\\', 'u', '0', '0', upperHexDigit (c.toNat / 16), upperHexDigit (c.toNat % 16)]) ∨
    (escapedChar c = [c] ∧ c ≠ '"' ∧ c ≠ '\\' ∧ isControl c = false) := by
  unfold escapedChar
  iterate 7
    split
    · subst_vars; exact .inl ⟨_, rfl, rfl⟩
  next hb hq _ _ _ _ _ =>
  split
  next h => exact .inr (.inl ⟨by omega, rfl⟩)
  next h =>
    simp only [not_or] at h
    exact .inr (.inr ⟨rfl, hq, hb, by simp [isControl, h]⟩)

theorem basicTail_simpleEscape {x c : Char} (h : simpleEscape? x = some c) (rest : List Char) :
    basicTail ('\\' :: x :: rest) = (basicTail rest).map fun r => (c :: r.1, r.2) := by
  unfold simpleEscape? at h
  split at h <;> cases h <;> rfl

theorem basicTail_plain {c : Char} (hq : c ≠ '"') (hb : c ≠ '\\') (hc : isControl c = false)
    (rest : List Char) : basicTail (c :: rest) = (basicTail rest).map fun r => (c :: r.1, r.2) := by
  have hi : isIllegal c = false := by simp [isIllegal, hc]
  rw [basicTail.eq_def]
  split <;> simp_all

theorem basicTail_escapedChar (c : Char) (rest : List Char) :
    basicTail (escapedChar c ++ rest) = (basicTail rest).map fun r => (c :: r.1, r.2) := by
  rcases escapedChar_cases c with ⟨x, he, hx⟩ | ⟨hc, he⟩ | ⟨he, hq, hb, hc⟩
  · rw [he]
    exact basicTail_simpleEscape hx rest
  · rw [he]
    simp only [List.cons_append, List.nil_append, basicTail]
    rw [hexChar_controlCode hc]
    rfl
  · rw [he]
    exact basicTail_plain hq hb hc rest

/-- **A string is read back**, up to and over its closing quote and no further. -/
theorem basicTail_quoted (s rest : List Char) :
    basicTail (s.flatMap escapedChar ++ '"' :: rest) = .ok (s, rest) := by
  induction s with
  | nil => rfl
  | cons c s ih =>
    rw [List.flatMap_cons, List.append_assoc, basicTail_escapedChar, ih]
    rfl

theorem isControl_of_mem_escapedChar {c x : Char} (h : x ∈ escapedChar c) : isControl x = false := by
  rcases escapedChar_cases c with ⟨y, he, hy⟩ | ⟨hc, he⟩ | ⟨he, -, -, hc⟩
  · rw [he] at h
    simp only [List.mem_cons, List.not_mem_nil, or_false] at h
    rcases h with rfl | rfl
    · rfl
    · exact isControl_of_simpleEscape? hy
  · rw [he] at h
    simp only [List.mem_cons, List.not_mem_nil, or_false] at h
    rcases h with rfl | rfl | rfl | rfl | rfl | rfl
    · rfl
    · rfl
    · rfl
    · rfl
    · exact isControl_upperHexDigit _ (by omega)
    · exact isControl_upperHexDigit _ (by omega)
  · rw [he, List.mem_singleton] at h
    exact h ▸ hc

/-- A text without control characters, and so without a line feed. -/
def IsPlain (s : List Char) : Prop := ∀ x ∈ s, isControl x = false

instance : DecidablePred IsPlain := fun s =>
  decidable_of_iff ((s.all fun x => !isControl x) = true) (by simp [IsPlain])

theorem IsPlain.nil : IsPlain [] := fun _ hx => absurd hx List.not_mem_nil

theorem IsPlain.append {s t : List Char} (hs : IsPlain s) (ht : IsPlain t) : IsPlain (s ++ t) := by
  intro x hx
  rcases List.mem_append.1 hx with hx | hx
  · exact hs x hx
  · exact ht x hx

theorem IsPlain.cons {c : Char} {s : List Char} (hc : isControl c = false) (hs : IsPlain s) :
    IsPlain (c :: s) := by
  intro x hx
  rcases List.mem_cons.1 hx with rfl | hx
  · exact hc
  · exact hs x hx

/-- **A quoted string stays on its line**: it holds no control character. -/
theorem isPlain_quote (s : List Char) : IsPlain (quote s) := by
  intro x h
  simp only [quote, List.mem_cons, List.mem_append, List.mem_flatMap, List.not_mem_nil,
    or_false] at h
  rcases h with rfl | ⟨c, -, hx⟩ | rfl
  · rfl
  · exact isControl_of_mem_escapedChar hx
  · rfl

/-- A name that is written bare and read back as it is: bare characters, at least one. -/
def IsBareName (s : List Char) : Prop := s ≠ [] ∧ ∀ c ∈ s, isBareChar c = true

/-- A bare name and the end of its line. Such a name is written bare, line feed and all. -/
def IsBareLine (s : List Char) : Prop := ∃ name, IsBareName name ∧ s = name ++ ['\n']

instance : DecidablePred IsBareName := fun s =>
  decidable_of_iff ((!s.isEmpty && s.all isBareChar) = true) (by simp [IsBareName])

theorem isBareLine_iff {s : List Char} :
    IsBareLine s ↔ s.getLast? = some '\n' ∧ IsBareName s.dropLast := by
  constructor
  · rintro ⟨name, hname, rfl⟩
    simpa using hname
  · rintro ⟨hlast, hname⟩
    obtain ⟨name, rfl⟩ := List.getLast?_eq_some_iff.1 hlast
    exact ⟨name, by simpa using hname, rfl⟩

instance : DecidablePred IsBareLine := fun _ => decidable_of_iff _ isBareLine_iff.symm

theorem not_isBareLine_of_newline_not_mem {s : List Char} (h : '\n' ∉ s) : ¬ IsBareLine s := by
  rintro ⟨name, -, rfl⟩
  exact h (by simp)

theorem isBareName_takeWhile {s : List Char} (h : s.takeWhile isBareChar ≠ []) :
    IsBareName (s.takeWhile isBareChar) :=
  ⟨h, fun _ hc => (List.mem_takeWhile_imp hc)⟩

/-- What is written bare is a bare name, or one at the end of its line. -/
theorem isBareKey_cases {s : List Char} (h : isBareKey s = true) : IsBareName s ∨ IsBareLine s := by
  simp only [isBareKey, Bool.and_eq_true, Bool.not_eq_true', List.isEmpty_eq_false_iff,
    Bool.or_eq_true, List.isEmpty_iff, beq_iff_eq] at h
  have hname := isBareName_takeWhile h.1
  have hs := List.takeWhile_append_dropWhile (p := isBareChar) (l := s)
  rcases h.2 with hd | hd
  · rw [hd, List.append_nil] at hs
    exact .inl (hs ▸ hname)
  · rw [hd] at hs
    exact .inr ⟨_, hname, hs.symm⟩

theorem isBareKey_of_isBareName {s : List Char} (h : IsBareName s) : isBareKey s = true := by
  have hall : s.takeWhile isBareChar = s := List.takeWhile_eq_self_iff.2 h.2
  have hnone : s.dropWhile isBareChar = [] := List.dropWhile_eq_nil_iff.2 h.2
  simp [isBareKey, hall, hnone, h.1]

theorem formatKey_of_isBareName {s : List Char} (h : IsBareName s) : formatKey s = s := by
  rw [formatKey, if_pos (isBareKey_of_isBareName h)]

theorem not_isBareLine_of_isBareName {s : List Char} (h : IsBareName s) : ¬ IsBareLine s := by
  rintro ⟨name, -, rfl⟩
  exact absurd (h.2 '\n' (by simp)) (by decide)

theorem formatKey_cases {s : List Char} (h : ¬ IsBareLine s) :
    (IsBareName s ∧ formatKey s = s) ∨ formatKey s = quote s := by
  unfold formatKey
  split
  next hk => exact .inl ⟨(isBareKey_cases hk).resolve_right h, rfl⟩
  next => exact .inr rfl

theorem isControl_of_isBareChar {c : Char} (h : isBareChar c = true) : isControl c = false := by
  have hlow : ∀ n < 128, isControl (Char.ofNat n) = true → isBareChar (Char.ofNat n) = false := by
    decide
  by_contra hc
  rw [Bool.not_eq_false] at hc
  have hbound : c.toNat < 128 := by
    simp only [isControl, Bool.or_eq_true, decide_eq_true_eq] at hc
    omega
  have hbare := hlow c.toNat hbound
  rw [Char.ofNat_toNat] at hbare
  exact absurd (hbare hc) (by simp [h])

theorem IsBareName.plain {s : List Char} (h : IsBareName s) : IsPlain s :=
  fun x hx => isControl_of_isBareChar (h.2 x hx)

theorem isPlain_formatKey {s : List Char} (h : ¬ IsBareLine s) : IsPlain (formatKey s) := by
  rcases formatKey_cases h with ⟨hs, he⟩ | he
  · rw [he]
    exact hs.plain
  · rw [he]
    exact isPlain_quote s

theorem isSpace_of_isBareChar {c : Char} (h : isBareChar c = true) : isSpace c = false := by
  rw [isSpace, Bool.or_eq_false_iff, decide_eq_false_iff_not, decide_eq_false_iff_not]
  constructor <;> rintro rfl <;> exact absurd h (by decide)

theorem skipSpace_cons {c : Char} (h : isSpace c = false) (s : List Char) :
    skipSpace (c :: s) = c :: s := by
  rw [skipSpace, List.dropWhile_cons, h]
  rfl

theorem formatKey_head {s : List Char} (h : ¬ IsBareLine s) :
    ∃ c t, formatKey s = c :: t ∧ isKeyStart c = true ∧ isSpace c = false := by
  rcases formatKey_cases h with ⟨⟨hne, hall⟩, he⟩ | he
  · obtain ⟨c, t, rfl⟩ := List.exists_cons_of_ne_nil hne
    have hc := hall c (by simp)
    exact ⟨c, t, he, by simp [isKeyStart, hc], isSpace_of_isBareChar hc⟩
  · exact ⟨'"', _, he, by decide, by decide⟩

theorem readName_bare {c : Char} (h : isBareChar c = true) (s : List Char) :
    readName (c :: s) =
      .ok (String.ofList ((c :: s).takeWhile isBareChar), (c :: s).dropWhile isBareChar) := by
  unfold readName
  split
  next he => cases he; exact absurd h (by decide)
  next he => cases he; exact absurd h (by decide)
  next =>
    split
    next hs => simp [h] at hs
    next => rfl

theorem readName_of_isBareName {s rest : List Char} (h : IsBareName s)
    (hr : rest.takeWhile isBareChar = []) :
    readName (s ++ rest) = .ok (String.ofList s, rest) := by
  have hd : rest.dropWhile isBareChar = rest := by
    simpa [hr] using List.takeWhile_append_dropWhile (p := isBareChar) (l := rest)
  obtain ⟨hne, hall⟩ := h
  obtain ⟨c, s, rfl⟩ := List.exists_cons_of_ne_nil hne
  rw [List.cons_append, readName_bare (hall c (by simp)), ← List.cons_append,
    List.takeWhile_append_of_pos hall, List.dropWhile_append_of_pos hall, hr, hd, List.append_nil]

/-- **A name is read back** from a key as it is written. -/
theorem readName_formatKey {s rest : List Char} (h : ¬ IsBareLine s)
    (hr : rest.takeWhile isBareChar = []) :
    readName (formatKey s ++ rest) = .ok (String.ofList s, rest) := by
  rcases formatKey_cases h with ⟨hs, he⟩ | he
  · rw [he]
    exact readName_of_isBareName hs hr
  · rw [he]
    simp only [quote, List.cons_append, List.append_assoc, List.nil_append, readName,
      basicTail_quoted]
    rfl

theorem readNames_single {s rest : List Char} {name : String} (h : readName s = .ok (name, rest))
    (hr : ∀ more, skipSpace rest ≠ '.' :: more) (fuel : Nat) :
    readNames (fuel + 1) s = .ok ([name], skipSpace rest) := by
  simp only [readNames, h, bind, Except.bind]
  rfl

theorem readNames_dotted {s rest : List Char} {name : String}
    (h : readName s = .ok (name, '.' :: rest)) (fuel : Nat) :
    readNames (fuel + 1) s =
      (readNames fuel (skipSpace rest)).map fun r => (name :: r.1, r.2) := by
  have hs : skipSpace ('.' :: rest) = '.' :: rest := rfl
  simp only [readNames, h, bind, Except.bind, hs]
  cases readNames fuel (skipSpace rest) <;> rfl

/-- **A key is read back** as the one name that it is. -/
theorem readKey_formatKey {s : List Char} (h : ¬ IsBareLine s) (rest : List Char) :
    readKey (formatKey s ++ ' ' :: '=' :: rest) = .ok ([String.ofList s], '=' :: rest) :=
  readNames_single (readName_formatKey h rfl) (by rintro more ⟨⟩) _

/-- The names of a header with dots between them. -/
def dottedNames (key : Key) : List Char := join ['.'] (key.map String.toList)

theorem dottedNames_cons_cons (n m : String) (key : Key) :
    dottedNames (n :: m :: key) = n.toList ++ '.' :: dottedNames (m :: key) := by
  simp [dottedNames, join]

theorem isPlain_dottedNames {key : Key} (h : ∀ n ∈ key, IsBareName n.toList) :
    IsPlain (dottedNames key) := by
  induction key with
  | nil => exact .nil
  | cons n key ih =>
    have hn := (h n (by simp)).plain
    cases key with
    | nil =>
      rw [dottedNames, List.map_singleton, join]
      exact hn
    | cons m key =>
      have hrest := ih fun y hy => h y (by simp [hy])
      rw [dottedNames_cons_cons]
      exact hn.append (.cons rfl hrest)

theorem dottedNames_head {n : String} (h : IsBareName n.toList) (key : Key) :
    ∃ c s, dottedNames (n :: key) = c :: s ∧ isBareChar c = true := by
  obtain ⟨hne, hall⟩ := h
  obtain ⟨c, s, hs⟩ := List.exists_cons_of_ne_nil hne
  have hc : isBareChar c = true := hall c (by simp [hs])
  cases key with
  | nil => exact ⟨c, s, by simp [dottedNames, join, hs], hc⟩
  | cons m key => exact ⟨c, _, by rw [dottedNames_cons_cons, hs]; rfl, hc⟩

theorem skipSpace_dottedNames {n : String} (h : IsBareName n.toList) (key : Key)
    (rest : List Char) :
    skipSpace (dottedNames (n :: key) ++ rest) = dottedNames (n :: key) ++ rest := by
  obtain ⟨c, s, hs, hc⟩ := dottedNames_head h key
  rw [hs, List.cons_append, skipSpace_cons (isSpace_of_isBareChar hc)]

theorem readNames_dottedNames {key : Key} (hne : key ≠ []) (h : ∀ n ∈ key, IsBareName n.toList)
    {fuel : Nat} (hf : key.length ≤ fuel) (rest : List Char) :
    readNames fuel (dottedNames key ++ ']' :: rest) = .ok (key, ']' :: rest) := by
  induction key generalizing fuel with
  | nil => exact absurd rfl hne
  | cons n key ih =>
    obtain ⟨fuel, rfl⟩ : ∃ k, fuel = k + 1 := ⟨fuel - 1, by simp at hf; omega⟩
    cases key with
    | nil =>
      have hread : readName (n.toList ++ ']' :: rest) = .ok (String.ofList n.toList, ']' :: rest) :=
        readName_of_isBareName (h n (by simp)) rfl
      rw [String.ofList_toList] at hread
      exact readNames_single hread (by rintro more ⟨⟩) fuel
    | cons m key =>
      have hread : readName (n.toList ++ '.' :: (dottedNames (m :: key) ++ ']' :: rest)) =
          .ok (String.ofList n.toList, '.' :: (dottedNames (m :: key) ++ ']' :: rest)) :=
        readName_of_isBareName (h n (by simp)) rfl
      rw [String.ofList_toList] at hread
      have hrest : readNames fuel (dottedNames (m :: key) ++ ']' :: rest) =
          .ok (m :: key, ']' :: rest) :=
        ih (by simp) (fun x hx => h x (by simp [hx])) (by simpa using hf)
      rw [dottedNames_cons_cons, List.append_assoc, List.cons_append, readNames_dotted hread,
        skipSpace_dottedNames (h m (by simp)) key, hrest]
      rfl

theorem length_le_dottedNames {key : Key} (h : ∀ n ∈ key, IsBareName n.toList) :
    key.length ≤ (dottedNames key).length := by
  induction key with
  | nil => exact Nat.le_refl 0
  | cons n key ih =>
    have hn := List.length_pos_iff.2 (h n (by simp)).1
    have hk := ih fun x hx => h x (by simp [hx])
    cases key with
    | nil => simpa [dottedNames, join] using Nat.succ_le_of_lt hn
    | cons m key =>
      simp only [dottedNames_cons_cons, List.length_append, List.length_cons] at hk ⊢
      omega

/-- **The key of a header is read back.** -/
theorem readKey_dottedNames {key : Key} (hne : key ≠ []) (h : ∀ n ∈ key, IsBareName n.toList)
    (rest : List Char) : readKey (dottedNames key ++ ']' :: rest) = .ok (key, ']' :: rest) := by
  refine readNames_dottedNames hne h ?_ rest
  have := length_le_dottedNames h
  rw [List.length_append]
  omega

end Fingerprint.Toml
