/-
The language that an entrypoint stands for. It hangs on the last name of the
path alone: a name made of one of four extensions and something before it stands
for the language of the extension, and any other name for the default one
(`extensionLanguage_suffix_eq_iff`). So neither the directories before the name
nor the spelling of the path matter, and a name that is an extension and nothing
else has no language of its own (`entryLanguage_lastName`).
-/
import Fingerprint.Detection.Resolve
import Fingerprint.Proofs.FileName

namespace Fingerprint.Detection

open Fingerprint.Path

variable {p : Path} {l : Language} {x : String}

/-- The extensions that stand for a language of their own. -/
def extensions : List String := [".ts", ".tsx", ".py", ".rs"]

/-- The language that a file of a name is taken to be written in. -/
inductive IsLanguageOf (n : List Char) : Language → Prop where
  | ts (h : HasExtension n ".ts" ∨ HasExtension n ".tsx") : IsLanguageOf n .ts
  | python (h : HasExtension n ".py") : IsLanguageOf n .python
  | rust (h : HasExtension n ".rs") : IsLanguageOf n .rust
  | js (h : ∀ x ∈ extensions, ¬ HasExtension n x) : IsLanguageOf n .js

theorem isExtension_of_mem (hx : x ∈ extensions) : IsExtension x := by
  simp only [extensions, List.mem_cons, List.not_mem_nil, or_false] at hx
  obtain rfl | rfl | rfl | rfl := hx <;> exact ⟨_, rfl, by decide, by decide⟩

theorem suffix_eq_iff_of_mem (hx : x ∈ extensions) :
    p.suffix = x ↔ HasExtension p.name.toList x :=
  suffix_eq_iff p (isExtension_of_mem hx)

theorem isLanguageOf_extensionLanguage (p : Path) :
    IsLanguageOf p.name.toList (extensionLanguage p.suffix) := by
  have has {x : String} (hx : x ∈ extensions) := (suffix_eq_iff_of_mem (p := p) hx).1
  unfold extensionLanguage
  split
  next h => exact .ts (h.imp (has (by decide)) (has (by decide)))
  next hts =>
    split
    next h => exact .python (has (by decide) h)
    next hpy =>
      split
      next h => exact .rust (has (by decide) h)
      next hrs =>
        refine .js fun x hx hhas => ?_
        have hsuffix : p.suffix = x := (suffix_eq_iff_of_mem hx).2 hhas
        simp only [extensions, List.mem_cons, List.not_mem_nil, or_false] at hx
        obtain rfl | rfl | rfl | rfl := hx
        · exact hts (.inl hsuffix)
        · exact hts (.inr hsuffix)
        · exact hpy hsuffix
        · exact hrs hsuffix

theorem extensionLanguage_of_isLanguageOf (h : IsLanguageOf p.name.toList l) :
    extensionLanguage p.suffix = l := by
  have hsuffix {x : String} (hx : x ∈ extensions) := (suffix_eq_iff_of_mem (p := p) hx).2
  cases h with
  | ts h => exact if_pos (h.imp (hsuffix (by decide)) (hsuffix (by decide)))
  | python h => simp [extensionLanguage, hsuffix (by decide) h]
  | rust h => simp [extensionLanguage, hsuffix (by decide) h]
  | js h =>
    have hnone : ∀ x ∈ extensions, p.suffix ≠ x := fun x hx heq =>
      h x hx ((suffix_eq_iff_of_mem hx).1 heq)
    simp only [extensions, List.forall_mem_cons] at hnone
    simp [extensionLanguage, hnone]

/-- **The language of an extension is that of the name** that it stands at the end of. -/
theorem extensionLanguage_suffix_eq_iff :
    extensionLanguage p.suffix = l ↔ IsLanguageOf p.name.toList l :=
  ⟨fun h => h ▸ isLanguageOf_extensionLanguage p, extensionLanguage_of_isLanguageOf⟩

theorem isLanguageOf_js_of_mem (hx : x ∈ extensions) : IsLanguageOf x.toList .js :=
  .js fun _ hy => not_hasExtension_of_isExtension (isExtension_of_mem hx) (isExtension_of_mem hy)

/-- **The language that an entrypoint stands for is that of its last name.** Every text has one last
name, which is empty where all components are, or single dots, and the language is the one that a
file of this name is taken to be written in. Directories, dots in them, slashes that are repeated or
at the end and components of a single dot change nothing, and a name that is an extension and
nothing else stands for JavaScript. -/
theorem entryLanguage_lastName :
    (∀ e : String, ∃ n, (∀ m, IsLastName e.toList m ↔ m = n) ∧
      ∀ l, entryLanguage e = l ↔ IsLanguageOf n l) ∧
    IgnoresSpelling entryLanguage ∧
    ∀ e : String, ∀ x ∈ extensions, IsLastName e.toList x.toList → entryLanguage e = .js := by
  refine ⟨fun e => ⟨(ofString e).name.toList, fun m => ?_, fun l => ?_⟩, ?_, fun e x hx h => ?_⟩
  · rw [isLastName_iff, eq_comm]
  · exact extensionLanguage_suffix_eq_iff
  · exact ignoresSpelling_name fun name => extensionLanguage (String.ofList (suffixOf name.toList))
  · refine extensionLanguage_suffix_eq_iff.2 ?_
    rw [isLastName_iff.1 h]
    exact isLanguageOf_js_of_mem hx

/-- Dots and an extension among the directories, a name with dots in front, and what is passed over
behind it; and a hidden file below a directory that has an extension. -/
theorem entryLanguage_lastName_dotted :
    IsLastName "lib.py/.//..ts//.".toList "..ts".toList ∧
    entryLanguage "lib.py/.//..ts//." = .ts ∧
    entryLanguage "v1.rs/../lib.py/.//..ts//." = .ts ∧
    IsLastName "lib.ts/.py/".toList ".py".toList ∧ entryLanguage "lib.ts/.py/" = .js := by
  obtain ⟨hnames, hspelling, hhidden⟩ := entryLanguage_lastName
  have hlast : IsLastName "lib.py/.//..ts//.".toList "..ts".toList := by decide
  have hts : entryLanguage "lib.py/.//..ts//." = .ts := by
    obtain ⟨n, hn, hlanguage⟩ := hnames "lib.py/.//..ts//."
    obtain rfl := (hn _).1 hlast
    exact (hlanguage .ts).2 (.ts (.inl ⟨['.'], by decide, by decide⟩))
  have hbelow : entryLanguage "v1.rs/../lib.py/.//..ts//." = entryLanguage "lib.py/.//..ts//." :=
    hspelling.directory "v1.rs/.." "lib.py/.//..ts//." (by decide)
  have hpy : IsLastName "lib.ts/.py/".toList ".py".toList := by decide
  exact ⟨hlast, hts, hbelow.trans hts, hpy, hhidden _ ".py" (by decide) hpy⟩

end Fingerprint.Detection
