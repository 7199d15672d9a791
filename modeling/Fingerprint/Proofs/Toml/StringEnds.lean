/-
Where a quoted string ends. Whatever follows it, a reader of strings on one
line stops right behind its closing quote and gives back what was quoted, in
keys and in values; only an empty string is no value of its own before one more
quote, since three quotes open a long string (`stringHere?_quote_iff`). And no
control character stands between the quotes, so the string stays on its line
(`quote_ends`).
-/
import Fingerprint.Proofs.Toml.Scalar
import Fingerprint.Proofs.Toml.Scanning

namespace Fingerprint.Toml

variable {s t rest : List Char}

/-- Behind three quotes a reader never comes to stand at the third. -/
theorem stringHere?_three_quotes_ne (t held : List Char) :
    stringHere? ('"' :: '"' :: '"' :: t) ≠ some (.ok (held, '"' :: t)) := by
  intro h
  have hread : (longBasicTail .none (dropFirstBreak t)).map (moreQuotes '"') =
      .ok (held, '"' :: t) := Option.some.inj h
  have hleaves : Meets t (Leaves t) ((longBasicTail .none (dropFirstBreak t)).map (moreQuotes '"')) :=
    (meets_longBasicTail (dropFirstBreak_suffix t)).map fun r hr => (moreQuotes_suffix _ r).trans hr
  rw [hread] at hleaves
  have hlength : ('"' :: t).length ≤ t.length := List.IsSuffix.length_le hleaves
  exact absurd hlength (Nat.not_succ_le_self _)

/-- **As a value, a quoted string is read back unless it is empty and one more quote follows.** -/
theorem stringHere?_quote_iff :
    stringHere? (quote s ++ rest) = some (.ok (s, rest)) ↔ ¬ (s = [] ∧ rest.head? = some '"') := by
  constructor
  · rintro hread ⟨rfl, hquote⟩
    obtain ⟨t, rfl⟩ := List.head?_eq_some_iff.1 hquote
    exact stringHere?_three_quotes_ne t [] hread
  · intro h
    refine stringHere?_quote_of_nil fun hs t ht => h ⟨hs, ?_⟩
    rw [ht]
    rfl

theorem readName_quote (s rest : List Char) :
    readName (quote s ++ rest) = .ok (String.ofList s, rest) := by
  simp only [quote, List.cons_append, List.append_assoc, List.nil_append, readName, basicTail_quoted]
  rfl

theorem isControl_eq_false_iff {c : Char} :
    isControl c = false ↔ 0x20 ≤ c.toNat ∧ c.toNat ≠ 0x7F := by
  simp [isControl]

/-- **A quoted string is read back exactly and ends where it should.** Behind its opening quote the
rest of a string on one line is read as what was quoted, up to and over the closing quote and no
further, whatever follows; so it is read as a key, and as a value unless it is empty and one more
quote follows. It holds no control character, and so no end of a line. -/
theorem quote_ends (s rest : List Char) :
    (∃ body, quote s ++ rest = '"' :: body ∧ basicTail body = .ok (s, rest)) ∧
    readName (quote s ++ rest) = .ok (String.ofList s, rest) ∧
    (stringHere? (quote s ++ rest) = some (.ok (s, rest)) ↔
      ¬ (s = [] ∧ rest.head? = some '"')) ∧
    (∀ c ∈ quote s, 0x20 ≤ c.toNat ∧ c.toNat ≠ 0x7F) ∧ '\n' ∉ quote s ∧ '\r' ∉ quote s := by
  have hplain : ∀ c ∈ quote s, 0x20 ≤ c.toNat ∧ c.toNat ≠ 0x7F := fun c hc =>
    isControl_eq_false_iff.1 (isPlain_quote s c hc)
  refine ⟨⟨s.flatMap escapedChar ++ '"' :: rest, by simp [quote], basicTail_quoted s rest⟩,
    readName_quote s rest, stringHere?_quote_iff, hplain, fun hn => ?_, fun hr => ?_⟩
  · exact absurd (hplain _ hn).1 (by decide)
  · exact absurd (hplain _ hr).1 (by decide)

/-- What follows may go on with quotes or with the digits of an escape. -/
theorem quote_ends_digits :
    basicTail "\\u007F\\\\\\\"\"\"00".toList = .ok (['\x7f', '\\', '"'], "\"00".toList) ∧
    readName "\"\"\"\"".toList = .ok ("", "\"\"".toList) ∧
    stringHere? "\"\"\"\"".toList ≠ some (.ok ([], "\"\"".toList)) ∧
    ∀ c ∈ quote ['\x7f', '\\', '"'], 0x20 ≤ c.toNat ∧ c.toNat ≠ 0x7F := by
  obtain ⟨⟨body, hbody, hread⟩, -, -, hplain, -, -⟩ := quote_ends ['\x7f', '\\', '"'] "\"00".toList
  obtain ⟨-, hname, hvalue, -, -, -⟩ := quote_ends [] "\"\"".toList
  have htext : quote ['\x7f', '\\', '"'] ++ "\"00".toList =
      '"' :: "\\u007F\\\\\\\"\"\"00".toList := by decide
  refine ⟨?_, hname, fun hstring => hvalue.1 hstring ⟨rfl, rfl⟩, hplain⟩
  rw [hbody] at htext
  rw [← (List.cons.inj htext).2]
  exact hread

end Fingerprint.Toml
