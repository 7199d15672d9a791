/-
What a module list requires. A list is made of single requirements, blocks of
requirements and lines that are neither (`Requires`). A path and a version are
the same requirement on a line of their own and in a block, after each block
the list goes on as before it, and so the list holds the requirements of both
kinds in their order, the last one of a path winning
(`dependencies_of_requires`).
-/
import Fingerprint.Manifest.ModuleList
import Fingerprint.Proofs.Entries
import Fingerprint.Proofs.Manifest.Lines
import Fingerprint.Proofs.Text.Pieces

namespace Fingerprint.ModuleList

open Text

/-- How a comment begins. -/
def commentMark : List Char := "//".toList

theorem isWord_commentMark : IsWord commentMark := by decide

theorem keyword_eq : keyword = "require".toList ++ [' '] := by decide

theorem opening_eq : opening = keyword ++ ['('] := by decide

/-- Whether a path and a version can be told from everything else on a line. -/
structure IsRequirement (path version : List Char) : Prop where
  path_word : IsWord path
  version_word : IsWord version
  not_comment : ¬ commentMark <+: path
  not_block : path.head? ≠ some '('
  not_keyword : path ≠ "require".toList

/-- A path and a version with blanks between them, and perhaps more after a blank. -/
inductive IsPair : List Char → String × String → Prop where
  | intro {b r : List Char} {path version : String}
    (h : IsRequirement path.toList version.toList) (hb : IsBlankRun b) (hne : b ≠ [])
    (hr : BeginsBlank r) : IsPair (path.toList ++ (b ++ (version.toList ++ r))) (path, version)

/-- A line `require path version`. -/
inductive IsSingle : List Char → String × String → Prop where
  | intro {a b s : List Char} {p : String × String} (ha : IsBlankRun a) (hb : IsBlankRun b)
    (hs : IsPair s p) : IsSingle (a ++ (keyword ++ (b ++ s))) p

/-- A line `path version` of a block. -/
inductive IsMember : List Char → String × String → Prop where
  | intro {a s : List Char} {p : String × String} (ha : IsBlankRun a) (hs : IsPair s p) :
    IsMember (a ++ s) p

/-- Whether a line of a block says nothing: blank, or a comment. -/
inductive IsIdle : List Char → Prop where
  | blank {l : List Char} (h : IsBlankRun l) : IsIdle l
  | comment {a r : List Char} (h : IsBlankRun a) : IsIdle (a ++ (commentMark ++ r))

/-- A line `require (`, perhaps with a comment. -/
inductive IsOpening : List Char → Prop where
  | plain {a b : List Char} (ha : IsBlankRun a) (hb : IsBlankRun b) :
    IsOpening (a ++ (opening ++ b))
  | comment {a b r : List Char} (ha : IsBlankRun a) (hb : IsBlankRun b) :
    IsOpening (a ++ (opening ++ (b ++ (commentMark ++ r))))

/-- A line `)`. -/
inductive IsClosing : List Char → Prop where
  | intro {a b : List Char} (ha : IsBlankRun a) (hb : IsBlankRun b) : IsClosing (a ++ [')'] ++ b)

/-- The lines of a module list with its requirements, in order. A line that is no requirement may be
anything that does not begin like one, a blank line and a comment among them. -/
inductive Requires : List (List Char) → List (String × String) → Prop where
  | nil : Requires [] []
  | other {l : List Char} {ls : List (List Char)} {ps : List (String × String)}
    (hl : ¬ keyword <+: trim l) (rest : Requires ls ps) : Requires (l :: ls) ps
  | single {l : List Char} {p : String × String} {ls : List (List Char)}
    {ps : List (String × String)} (hl : IsSingle l p) (rest : Requires ls ps) :
    Requires (l :: ls) (p :: ps)
  | block {first last : List Char} {body ls : List (List Char)} {qs ps : List (String × String)}
    (hfirst : IsOpening first) (hbody : LinesDeclare IsIdle IsMember body qs)
    (hlast : IsClosing last) (rest : Requires ls ps) :
    Requires (first :: (body ++ last :: ls)) (qs ++ ps)

namespace IsPair

variable {s : List Char} {p : String × String}

theorem exists_trimEnd (h : IsPair s p) (x : List Char) :
    ∃ s', IsPair s' p ∧ trimEnd (x ++ s) = x ++ s' := by
  obtain @⟨b, r, path, version, h, hb, hne, hr⟩ := h
  refine ⟨_, .intro h hb hne hr.trimEnd, ?_⟩
  have hversion := h.version_word.ne_nil
  have hend := trimEnd_append (w := x ++ (path.toList ++ (b ++ version.toList)))
    (by simp [hversion]) (fun c hc => ?_) r
  · simpa using hend
  · rw [List.getLast?_append_of_ne_nil _ (by simp [hversion]),
      List.getLast?_append_of_ne_nil _ (by simp [hversion]),
      List.getLast?_append_of_ne_nil _ hversion] at hc
    exact h.version_word.tight.last c hc

/-- The path and the version are the first two words. -/
theorem words_eq (h : IsPair s p) :
    ∃ more, words s = p.1.toList :: p.2.toList :: more := by
  obtain @⟨b, r, path, version, h, hb, hne, hr⟩ := h
  refine ⟨words r, ?_⟩
  rw [words_append h.path_word (hb.beginsBlank hne _), words_blanks_append hb,
    words_append h.version_word hr]

theorem ne_nil (h : IsPair s p) : s ≠ [] := by
  obtain ⟨h, -, -, -⟩ := h
  simp [h.path_word.ne_nil]

theorem head?_not_blank (h : IsPair s p) {c : Char} (hc : s.head? = some c) :
    isBlank c = false := by
  obtain ⟨h, -, -, -⟩ := h
  rw [List.head?_append_of_ne_nil _ h.path_word.ne_nil] at hc
  exact h.path_word.tight.first c hc

theorem not_comment (h : IsPair s p) : ¬ commentMark <+: s := by
  obtain ⟨h, hb, hne, -⟩ := h
  exact fun hs => h.not_comment
    (isPrefix_of_isPrefix_append isWord_commentMark.solid (hb.beginsBlank hne _) hs)

theorem not_block (h : IsPair s p) : s.head? ≠ some '(' := by
  obtain ⟨h, -, -, -⟩ := h
  rw [List.head?_append_of_ne_nil _ h.path_word.ne_nil]
  exact h.not_block

theorem pair?_words (h : IsPair s p) : pair? (words s) = some p := by
  obtain ⟨more, hwords⟩ := h.words_eq
  rw [hwords]
  simp [pair?]

/-- A line that opens a block is no pair, since its first word is the keyword. -/
theorem not_opening (h : IsPair s p) : ¬ opening <+: s := by
  rintro ⟨rest, hrest⟩
  obtain ⟨more, hwords⟩ := h.words_eq
  have hkeyword : IsWord "require".toList := by decide
  have hblank : BeginsBlank (' ' :: '(' :: rest) := fun c hc => by cases hc; decide
  have hfirst := words_append hkeyword hblank
  rw [← hrest, opening_eq, keyword_eq] at hwords
  simp only [List.append_assoc, List.cons_append, List.nil_append] at hwords
  rw [hfirst, List.cons.injEq] at hwords
  obtain ⟨h, -, -, -⟩ := h
  exact h.not_keyword hwords.1.symm

end IsPair

section Steps

variable {l : List Char} {p : String × String} {inside : Bool} (ls : List (List Char))

theorem isSkipped_eq_false {s : List Char} (hne : s ≠ []) (h : ¬ commentMark <+: s) :
    isSkipped s = false := by
  rw [isSkipped, Bool.or_eq_false_iff, List.isEmpty_eq_false_iff]
  exact ⟨hne, Bool.eq_false_iff.2 fun hp => h (List.isPrefixOf_iff_prefix.1 hp)⟩

theorem not_isPrefixOf {s t : List Char} (h : ¬ s <+: t) : ¬ s.isPrefixOf t = true :=
  fun hp => h (List.isPrefixOf_iff_prefix.1 hp)

theorem requirementsFrom_other (h : ¬ keyword <+: trim l) :
    requirementsFrom false (l :: ls) = requirementsFrom false ls := by
  have hopening : ¬ opening <+: trim l := fun ho =>
    h ((opening_eq ▸ List.prefix_append keyword ['(']).trans ho)
  rw [requirementsFrom]
  split
  next => rfl
  next =>
    rw [if_neg (not_isPrefixOf hopening), if_neg Bool.false_ne_true, if_neg (not_isPrefixOf h)]

theorem requirementsFrom_single (h : IsSingle l p) :
    requirementsFrom false (l :: ls) = p :: requirementsFrom false ls := by
  obtain @⟨a, b, s, p, ha, hb, hs⟩ := h
  obtain ⟨s', hs', htrimEnd⟩ := hs.exists_trimEnd (keyword ++ b)
  have htrim : trim (a ++ (keyword ++ (b ++ s))) = keyword ++ (b ++ s') := by
    rw [trim_blanks_append ha, ← List.append_assoc, ← List.append_assoc, ← htrimEnd]
    rfl
  have hnotOpening : ¬ opening <+: keyword ++ (b ++ s') := by
    intro ho
    rw [opening_eq, List.prefix_append_right_inj] at ho
    obtain ⟨rest, hrest⟩ := ho
    cases b with
    | nil => exact hs'.not_block (by rw [← List.nil_append s', ← hrest]; rfl)
    | cons c b =>
      obtain ⟨rfl, -⟩ := List.cons.inj hrest
      exact absurd (hb '(' (by simp)) (by decide)
  have hwords : words (keyword ++ (b ++ s')) = "require".toList :: words s' := by
    have hkeyword : IsWord "require".toList := by decide
    have hspace : IsBlankRun (' ' :: b) := List.forall_mem_cons.2 ⟨by decide, hb⟩
    have hfirst := words_append (r := ' ' :: b ++ s') hkeyword (hspace.beginsBlank (by simp) s')
    rw [words_blanks_append hspace] at hfirst
    rwa [keyword_eq, List.append_assoc]
  have hskip : isSkipped (keyword ++ (b ++ s')) = false := rfl
  rw [requirementsFrom, htrim]
  simp only [hskip, Bool.false_eq_true, if_false]
  rw [if_neg (not_isPrefixOf hnotOpening),
    if_pos (List.isPrefixOf_iff_prefix.2 (List.prefix_append _ _)), hwords, List.drop_one,
    List.tail_cons, hs'.pair?_words]
  rfl

theorem requirementsFrom_opening (h : IsOpening l) :
    requirementsFrom inside (l :: ls) = requirementsFrom true ls := by
  have htrim : ∀ {a r : List Char}, IsBlankRun a →
      trim (a ++ (opening ++ r)) = opening ++ trimEnd r := fun ha => by
    rw [trim_blanks_append ha, trim_append (by decide) (by decide)]
  have hline : ∃ r, trim l = opening ++ r := by
    cases h with
    | plain ha => exact ⟨_, htrim ha⟩
    | comment ha => exact ⟨_, htrim ha⟩
  obtain ⟨r, hr⟩ := hline
  have hskip : isSkipped (opening ++ r) = false := rfl
  rw [requirementsFrom, hr]
  simp only [hskip, Bool.false_eq_true, if_false]
  rw [if_pos (List.isPrefixOf_iff_prefix.2 (List.prefix_append _ _))]

theorem requirementsFrom_closing (h : IsClosing l) :
    requirementsFrom true (l :: ls) = requirementsFrom false ls := by
  obtain ⟨ha, hb⟩ := h
  rw [requirementsFrom, trim_padded ha (by decide) hb]
  rfl

theorem requirementsFrom_idle (h : IsIdle l) :
    requirementsFrom inside (l :: ls) = requirementsFrom inside ls := by
  have hskip : isSkipped (trim l) = true := by
    cases h with
    | blank h =>
      rw [trim_of_isBlankRun h]
      rfl
    | comment h =>
      rw [trim_blanks_append h, trim_append (by decide) (by decide)]
      rfl
  rw [requirementsFrom, if_pos hskip]

theorem requirementsFrom_member (h : IsMember l p) :
    requirementsFrom true (l :: ls) = p :: requirementsFrom true ls := by
  obtain @⟨a, s, p, ha, hs⟩ := h
  obtain ⟨s', hs', htrimEnd⟩ := hs.exists_trimEnd []
  have htrim : trim (a ++ s) = s' := by
    have hstart : trimStart s = s := by
      obtain ⟨c, rest, rfl⟩ := List.exists_cons_of_ne_nil hs.ne_nil
      simp [trimStart, hs.head?_not_blank rfl]
    rw [trim_blanks_append ha, trim, hstart]
    exact htrimEnd
  have hnotClosing : s' ≠ [')'] := by
    rintro rfl
    obtain ⟨more, hwords⟩ := hs'.words_eq
    exact absurd hwords (by simp [words, show isBlank ')' = false from rfl])
  rw [requirementsFrom, htrim]
  simp only [isSkipped_eq_false hs'.ne_nil hs'.not_comment, Bool.false_eq_true, if_false, if_true]
  rw [if_neg (not_isPrefixOf hs'.not_opening), if_neg hnotClosing, hs'.pair?_words]
  rfl

theorem requirementsFrom_members {body : List (List Char)} {qs : List (String × String)}
    (h : LinesDeclare IsIdle IsMember body qs) :
    requirementsFrom true (body ++ ls) = qs ++ requirementsFrom true ls := by
  induction h with
  | nil => rfl
  | idle h rest ih => rw [List.cons_append, requirementsFrom_idle _ h, ih]
  | declares h rest ih => rw [List.cons_append, requirementsFrom_member _ h, ih, List.cons_append]

end Steps

/-- **A list is read as its requirements**, those in blocks and those on lines of their own. -/
theorem Requires.requirementsFrom_eq {ls : List (List Char)} {ps : List (String × String)}
    (h : Requires ls ps) : requirementsFrom false ls = ps := by
  induction h with
  | nil => rfl
  | other hl rest ih => rw [requirementsFrom_other _ hl, ih]
  | single hl rest ih => rw [requirementsFrom_single _ hl, ih]
  | block hfirst hbody hlast rest ih =>
    rw [requirementsFrom_opening _ hfirst, requirementsFrom_members _ hbody,
      requirementsFrom_closing _ hlast, ih]

/-- **A module list holds its requirements**, the last one of a path winning. -/
theorem dependencies_of_requires {text : String} {ps : List (String × String)}
    (h : Requires (lines text.toList) ps) (path : String) :
    (dependencies text).get? path = Entries.last? path ps := by
  rw [dependencies, h.requirementsFrom_eq, Table.get?_ofList]

/-- The lines of a list with a block between two single requirements, and other directives. -/
def mixedLines : List (List Char) := [
  "module example.com/m".toList, [],
  "require golang.org/x/sys v0.1.0 // indirect".toList,
  "require (  // direct".toList, "\t// listed here".toList, "\tgithub.com/a/b v1.2.3".toList,
  " )".toList,
  "replace (".toList, "\tgithub.com/a/b v9.9.9 => ../b".toList, ")".toList,
  "require  github.com/a/b v1.3.0".toList]

/-- That list as a text. -/
def mixedText : String := String.ofList (endLines mixedLines)

/-- The single requirement behind the block counts, and what is replaced is no requirement. -/
theorem dependencies_mixedText :
    Requires (lines mixedText.toList) [("golang.org/x/sys", "v0.1.0"),
      ("github.com/a/b", "v1.2.3"), ("github.com/a/b", "v1.3.0")] ∧
    (dependencies mixedText).get? "golang.org/x/sys" = some "v0.1.0" ∧
    (dependencies mixedText).get? "github.com/a/b" = some "v1.3.0" := by
  have hlines : lines mixedText.toList = mixedLines := by
    rw [mixedText, String.toList_ofList, lines_endLines (by decide +kernel)]
  have hsystem : IsRequirement "golang.org/x/sys".toList "v0.1.0".toList :=
    ⟨by decide, by decide, by decide, by decide, by decide⟩
  have hdirect : ∀ v, v = "v1.2.3" ∨ v = "v1.3.0" →
      IsRequirement "github.com/a/b".toList v.toList := by
    rintro v (rfl | rfl)
    · exact ⟨by decide, by decide, by decide, by decide, by decide⟩
    · exact ⟨by decide, by decide, by decide, by decide, by decide⟩
  have hfirst : IsSingle "require golang.org/x/sys v0.1.0 // indirect".toList
      ("golang.org/x/sys", "v0.1.0") :=
    .intro (a := []) (b := []) nofun nofun
      (.intro (b := [' ']) (r := " // indirect".toList) hsystem (by decide) (by decide)
        (by decide))
  have hopen : IsOpening "require (  // direct".toList :=
    .comment (a := []) (b := [' ', ' ']) (r := " direct".toList) nofun (by decide)
  have hcomment : IsIdle "\t// listed here".toList :=
    .comment (a := ['\t']) (r := " listed here".toList) (by decide)
  have hmember : IsMember "\tgithub.com/a/b v1.2.3".toList ("github.com/a/b", "v1.2.3") :=
    .intro (a := ['\t']) (by decide)
      (.intro (b := [' ']) (r := []) (hdirect _ (.inl rfl)) (by decide) (by decide) (by decide))
  have hclose : IsClosing " )".toList := .intro (a := [' ']) (b := []) (by decide) nofun
  have hlast : IsSingle "require  github.com/a/b v1.3.0".toList ("github.com/a/b", "v1.3.0") :=
    .intro (a := []) (b := [' ']) nofun (by decide)
      (.intro (b := [' ']) (r := []) (hdirect _ (.inr rfl)) (by decide) (by decide) (by decide))
  have hlist : Requires (lines mixedText.toList) [("golang.org/x/sys", "v0.1.0"),
      ("github.com/a/b", "v1.2.3"), ("github.com/a/b", "v1.3.0")] := by
    rw [hlines]
    exact .other (by decide) (.other (by decide) (.single hfirst
      (.block hopen (.idle hcomment (.declares hmember .nil)) hclose
        (.other (by decide) (.other (by decide) (.other (by decide) (.single hlast .nil)))))))
  exact ⟨hlist, dependencies_of_requires hlist _, dependencies_of_requires hlist _⟩

end Fingerprint.ModuleList
