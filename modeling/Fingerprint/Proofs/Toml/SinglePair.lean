/-
A document of a single pair, its key and its string as they are written. It is
read back as this pair whatever the string, and whatever the key but one kind:
a bare name with a line feed behind it is written bare, the line ends after the
name, and what the reader misses there is the equals sign (`read_pairText`).
-/
import Fingerprint.Proofs.Toml.Run

namespace Fingerprint.Toml

open Text

variable {b b' : Builder} {name value : String} {s : List Char}

/-- The line of a pair whose value is a string. -/
def pairLine (name value : String) : List Char :=
  formatKey name.toList ++ " = ".toList ++ quote value.toList

/-- The document of a single pair. -/
def pairText (name value : String) : String := String.ofList (pairLine name value)

theorem pairLine_eq (name value : String) : pairLine name value =
    formatKey name.toList ++ ' ' :: '=' :: ' ' :: quote value.toList := by
  simp [pairLine]

theorem readValue_quote_end (value : String) (depth : Nat) :
    readValue (depth + 1) (quote value.toList) = .ok (.string value, []) := by
  have hstring : stringHere? (quote value.toList ++ []) = some (.ok (value.toList, [])) :=
    stringHere?_quote value.toList nofun
  rw [List.append_nil] at hstring
  have hread : readScalar (quote value.toList) = .ok (.string value, []) := by
    rw [readScalar, hstring]
    simp [Except.map]
  exact (readValue_scalar (by decide) (by decide) depth _).trans hread

/-- What a statement comes to with which a document begins and ends. -/
theorem readLines_onlyStatement {c : Char} (hs : isSpace c = false) (hn : c ≠ '\n') (fuel : Nat) :
    readLines (fuel + 1) b (c :: s) =
      (readStatement b c (c :: s)).bind fun r =>
        (skipComment r.2).bind fun
          | [] => .ok r.1
          | '\n' :: rest => readLines fuel r.1 rest
          | other => faultAt .endOfStatement other := by
  rw [readLines, skipSpace_cons hs]
  split
  next he => cases he
  next he => exact absurd (List.cons.inj he).1 hn
  next he =>
    cases he
    rfl

theorem not_mem_pairLine (hn : ¬ IsBareLine name.toList) : '\r' ∉ pairLine name value := by
  have hplain : IsPlain (pairLine name value) :=
    ((isPlain_formatKey hn).append (by decide)).append (isPlain_quote _)
  exact fun hm => absurd (hplain _ hm) (by decide)

theorem addPair_first (name value : String) (here : List Char) :
    Builder.addPair {} [name] (.string value) here =
      .ok (between [(name, .string value)] [] []) :=
  addPair_between (p := (name, .string value)) rfl rfl [] here

theorem readLines_pairLine (hn : ¬ IsBareLine name.toList) (fuel : Nat) :
    readLines (fuel + 1) {} (pairLine name value) = .ok (between [(name, .string value)] [] []) := by
  obtain ⟨c, key, hkey, hstart, hspace⟩ := formatKey_head hn
  have hc : c ≠ '\n' := by
    rintro rfl
    exact absurd hstart (by decide)
  have hpair : ∀ depth, readPair (readValue (depth + 1)) (pairLine name value) =
      .ok ([name], .string value, []) := by
    intro depth
    have hquote : skipSpace (quote value.toList) = quote value.toList := rfl
    rw [pairLine_eq, readPair_formatKey hn, hquote, readValue_quote_end]
    rfl
  have hline : pairLine name value = c :: (key ++ " = ".toList ++ quote value.toList) := by
    rw [pairLine, hkey]
    rfl
  rw [hline] at hpair ⊢
  rw [readLines_onlyStatement hspace hc]
  simp only [readStatement, hstart, if_true, hpair, addPair_first, bind, Except.bind]
  rfl

theorem formatKey_of_isBareLine {s : List Char} (h : IsBareLine s) : formatKey s = s := by
  obtain ⟨bare, ⟨hne, hall⟩, rfl⟩ := h
  have htake : (bare ++ ['\n']).takeWhile isBareChar = bare := by
    rw [List.takeWhile_append_of_pos hall]
    simp [isBareChar]
  have hdrop : (bare ++ ['\n']).dropWhile isBareChar = ['\n'] := by
    rw [List.dropWhile_append_of_pos hall]
    rfl
  rw [formatKey, if_pos]
  simp [isBareKey, htake, hdrop, hne]

theorem readPair_bareLine {bare : List Char} (h : IsBareName bare)
    (value : List Char → Except Fault (Value × List Char)) (rest : List Char) :
    readPair value (bare ++ '\n' :: rest) = faultAt .equalsSign ('\n' :: rest) := by
  have hkey : readKey (bare ++ '\n' :: rest) = .ok ([String.ofList bare], '\n' :: rest) :=
    readNames_single (readName_of_isBareName h rfl) (by rintro more ⟨⟩) _
  simp only [readPair, hkey, bind, Except.bind]
  rfl

theorem readLines_bareLine {bare : List Char} (h : IsBareName bare) (fuel : Nat)
    (rest : List Char) : readLines (fuel + 1) {} (bare ++ '\n' :: rest) =
      faultAt .equalsSign ('\n' :: rest) := by
  have hpair := readPair_bareLine h
  obtain ⟨c, bare, rfl⟩ := List.exists_cons_of_ne_nil h.1
  have hbare : isBareChar c = true := h.2 c (by simp)
  have hstart : isKeyStart c = true := by simp [isKeyStart, hbare]
  have hc : c ≠ '\n' := by
    rintro rfl
    exact absurd hbare (by decide)
  simp only [List.cons_append] at hpair ⊢
  rw [readLines_onlyStatement (isSpace_of_isBareChar hbare) hc]
  simp only [readStatement, hstart, if_true, hpair]
  rfl

/-- A document whose first line is a bare name is refused where the name ends. -/
theorem read_bareLine {bare rest : List Char} (h : IsBareName bare) (hrest : IsPlain rest) :
    read (String.ofList (bare ++ '\n' :: rest)) =
      .error (.violated .equalsSign (some ⟨bare.length, 1, bare.length + 1⟩)) := by
  have hcr : '\r' ∉ bare ++ '\n' :: rest := by
    rw [List.mem_append, List.mem_cons]
    rintro (hm | hm | hm)
    · exact absurd (h.plain _ hm) (by decide)
    · exact absurd hm (by decide)
    · exact absurd (hrest _ hm) (by decide)
  have hfeed : '\n' ∉ bare := fun hm => absurd (h.plain _ hm) (by decide)
  have hplace : (bare ++ '\n' :: rest).length - ('\n' :: rest).length = bare.length := by
    rw [List.length_append, Nat.add_sub_cancel]
  rw [read, String.toList_ofList]
  simp only [foldCrLf_eq_self hcr, readLines_bareLine h, faultAt, Fault.locate]
  rw [if_neg (by simp), hplace, Position.at_append hfeed]

/-- **A key survives in a document unless its own line ends in it.** A pair is read back as it is
but if its key is a bare name with a line feed behind it. Such a key is written without quotes, and
the document is refused where the key ends its first line. -/
theorem read_pairText (name value : String) : read (pairText name value) =
    if IsBareLine name.toList then
      .error (.violated .equalsSign (some ⟨name.length - 1, 1, name.length⟩))
    else .ok [(name, .string value)] := by
  split
  next hline =>
    obtain ⟨bare, hbare, hname⟩ := id hline
    have hlength : name.length = bare.length + 1 := by
      rw [← String.length_toList, hname, List.length_append]
      rfl
    have hrest : IsPlain (" = ".toList ++ quote value.toList) := .append (by decide) (isPlain_quote _)
    have htext : pairLine name value = bare ++ '\n' :: (" = ".toList ++ quote value.toList) := by
      rw [pairLine, formatKey_of_isBareLine hline, hname]
      simp
    rw [pairText, htext, read_bareLine hbare hrest, hlength, Nat.add_sub_cancel]
  next hline =>
    rw [read, pairText, String.toList_ofList]
    simp only [foldCrLf_eq_self (not_mem_pairLine hline), readLines_pairLine hline, between]

/-- A name with a line feed behind it is one that is lost. -/
theorem read_pairText_lost :
    ¬ ∀ name value, read (pairText name value) = .ok [(name, .string value)] := by
  intro h
  have hlost : (read (pairText "abc\n" "1.0")).isOk = false := by decide +kernel
  rw [h] at hlost
  cases hlost

end Fingerprint.Toml
