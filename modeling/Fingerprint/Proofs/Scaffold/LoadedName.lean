/-
The name that a loader passes on. It stands in the loader as it was given, so
what is passed is what the literal between the quotes of the loader denotes: the
name, and nothing of it left behind the literal, iff the name denotes itself
there (`passed_loader`). At a quote in the name the literal ends, and what the
name holds behind it is code.
-/
import Fingerprint.Proofs.Scaffold.Dialects
import Fingerprint.Scaffold.Loader

namespace Fingerprint.Scaffold

variable {mark s t r : List Char}

/-- What stands in a text behind the first place of a mark. -/
def behind? (mark : List Char) : List Char → Option (List Char)
  | [] => none
  | c :: s => if mark <+: c :: s then some ((c :: s).drop mark.length) else behind? mark s

theorem length_le_of_behind? (h : behind? mark s = some r) : mark.length ≤ s.length := by
  induction s with
  | nil => cases h
  | cons c s ih =>
    rw [behind?] at h
    split at h
    next hmark => exact hmark.length_le
    next hmark => exact Nat.le_succ_of_le (ih h)

theorem behind?_append (h : behind? mark s = some r) (t : List Char) :
    behind? mark (s ++ t) = some (r ++ t) := by
  induction s with
  | nil => cases h
  | cons c s ih =>
    rw [behind?] at h
    rw [List.cons_append, behind?]
    split at h
    next hmark =>
      cases h
      have hlonger : mark <+: c :: (s ++ t) := hmark.trans (List.prefix_append (c :: s) t)
      rw [if_pos hlonger, ← List.cons_append, List.drop_append_of_le_length hmark.length_le]
    next hmark =>
      have hlength : mark.length ≤ (c :: s).length := Nat.le_succ_of_le (length_le_of_behind? h)
      have hlonger : ¬ mark <+: c :: (s ++ t) := fun hp =>
        hmark (List.prefix_of_prefix_length_le hp (List.prefix_append (c :: s) t) hlength)
      rw [if_neg hlonger, ih h]

/-- The dialect of a loader. -/
def dialect (named : List Char → Option Char) : Language → Dialect
  | .python => .python named
  | _ => .node

/-- What a loader passes on: the value of the literal behind the call, and the text behind that. -/
def passed (d : Dialect) (text : String) : Option (List Nat × List Char) :=
  (behind? "phantom.load(".toList text.toList).bind d.readLiteral

variable {named : List Char → Option Char} {l : Language}

/-- Each loader but one calls with a quote before the name and one behind it. -/
theorem template_eq_named (h : l ≠ .rust) : ∃ before, template l = .named before "')\n" ∧
    behind? "phantom.load(".toList before.toList = some ['\''] := by
  cases l with
  | rust => exact absurd rfl h
  | python => exact ⟨_, rfl, by decide +kernel⟩
  | _ => exact ⟨_, rfl, by decide +kernel⟩

theorem passed_loader_eq (h : l ≠ .rust) (d : Dialect) (project : String) :
    passed d (loader l project) = d.readBody 0 (project.toList ++ '\'' :: ")\n".toList) := by
  obtain ⟨before, htemplate, hbefore⟩ := template_eq_named h
  have hend : "')\n".toList = '\'' :: ")\n".toList := rfl
  rw [passed, loader, htemplate, String.toList_append, String.toList_append, List.append_assoc,
    behind?_append hbefore, hend]
  rfl

theorem barred_of_break (named : List Char → Option Char) (l : Language) {c : Char}
    (h : c = '\n' ∨ c = '\r') : (dialect named l).barred c = true := by
  obtain rfl | rfl := h
  · cases l <;> rfl
  · cases l <;> rfl

/-- **A loader passes on exactly its project's name iff the name denotes itself** in the language of
the loader. Where a name has a quote, only what is before it is passed, and what is behind it is
code; where it has a line break, there is no literal. -/
theorem passed_loader (named : List Char → Option Char) (h : l ≠ .rust) (project : String) :
    (passed (dialect named l) (loader l project) =
        some ((dialect named l).value project.toList, ")\n".toList) ↔
      (dialect named l).IsVerbatim project.toList) ∧
    (∀ a b, project.toList = a ++ '\'' :: b → (dialect named l).IsVerbatim a →
      passed (dialect named l) (loader l project) =
        some ((dialect named l).value a, b ++ "')\n".toList)) ∧
    ∀ a c b, project.toList = a ++ c :: b → (dialect named l).IsVerbatim a → c = '\n' ∨ c = '\r' →
      passed (dialect named l) (loader l project) = none := by
  rw [passed_loader_eq h]
  refine ⟨Dialect.readBody_eq_value_iff, fun a b hname ha => ?_, fun a c b hname ha hc => ?_⟩
  · rw [hname, List.append_assoc, Dialect.readBody_verbatim_append ha, List.cons_append,
      Dialect.readBody_quote]
    simp [Dialect.prepend]
  · rw [hname, List.append_assoc, Dialect.readBody_verbatim_append ha, List.cons_append,
      Dialect.readBody_barred (barred_of_break named l hc) (by rintro rfl; simp at hc)]
    rfl

/-- The character of one name. -/
def bulletNamed (name : List Char) : Option Char :=
  if name = "BULLET".toList then some '\u2022' else none

/-- A backslash before a letter that makes no escape stands for itself in a script. A character
given by its name does not, a quote ends the name, and a line break leaves no literal. -/
theorem passed_loader_names :
    passed (dialect bulletNamed .python) (loader .python "a\\d") =
      some ([97, 92, 100], ")\n".toList) ∧
    passed (dialect bulletNamed .python) (loader .python "\\N\x7bBULLET\x7d") ≠
      some ((dialect bulletNamed .python).value "\\N\x7bBULLET\x7d".toList, ")\n".toList) ∧
    passed (dialect bulletNamed .js) (loader .js "it's") = some ([105, 116], "s')\n".toList) ∧
    passed (dialect bulletNamed .unknown) (loader .unknown "a\nb") = none := by
  obtain ⟨hletter, -, -⟩ := passed_loader (l := .python) bulletNamed (by decide) "a\\d"
  obtain ⟨hbullet, -, -⟩ := passed_loader (l := .python) bulletNamed (by decide) "\\N\x7bBULLET\x7d"
  obtain ⟨-, hquote, -⟩ := passed_loader (l := .js) bulletNamed (by decide) "it's"
  obtain ⟨-, -, hbreak⟩ := passed_loader (l := .unknown) bulletNamed (by decide) "a\nb"
  exact ⟨hletter.2 (by decide), fun hpassed => absurd (hbullet.1 hpassed) (by decide),
    hquote ['i', 't'] ['s'] (by decide) (by decide),
    hbreak ['a'] '\n' ['b'] (by decide) (by decide) (.inl rfl)⟩

/-- A quote in a name ends the name in both languages, and a backslash goes missing in one. -/
theorem passed_loader_unescaped :
    passed .node (loader .js "it's") = some (Dialect.node.value "it".toList, "s')\n".toList) ∧
    passed .node (loader .js "it's") ≠ some (Dialect.node.value "it's".toList, ")\n".toList) ∧
    passed .node (loader .ts "a\\d") = some (Dialect.node.value "ad".toList, ")\n".toList) ∧
    passed (.python bulletNamed) (loader .python "it's") ≠
      some ((Dialect.python bulletNamed).value "it's".toList, ")\n".toList) := by
  rw [passed_loader_eq (by decide), passed_loader_eq (by decide), passed_loader_eq (by decide)]
  decide +kernel

end Fingerprint.Scaffold
