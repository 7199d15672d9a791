/-
What a comment at the end of a line does to a requirement list. Only whole
lines can be comments: behind a name or a version all of the comment up to its
first operator becomes part of it (`requirementOn?_annotatedName`,
`requirementOn?_annotatedPin`). So the packages stay as they are iff other
lines settle them (`dependencies_annotated`).
-/
import Fingerprint.Proofs.ChangedEntries
import Fingerprint.Proofs.Manifest.DeclaredRequirements
import Fingerprint.Proofs.Text.LineEdits
import Fingerprint.Proofs.Text.Trimmed

namespace Fingerprint.RequirementList

open Text

variable {a d l s t x : List Char} {c : Char} {name version : String}

/-- A text without operators as the parts of a line: one, or none if it is blank. -/
def partHere (x : List Char) : List (List Char) := [trim x].filter fun p => !p.isEmpty

theorem partHere_of_ne_nil (h : trim x ≠ []) : partHere x = [trim x] := by simp [partHere, h]

theorem partsOf_free (hx : ∀ c ∈ x, isOperator c = false) : partsOf x = partHere x := by
  rw [partsOf, splitWhere_of_forall hx]
  rfl

theorem partsOf_split (hx : ∀ c ∈ x, isOperator c = false) (hc : isOperator c = true)
    (more : List Char) : partsOf (x ++ c :: more) = partHere x ++ partsOf more := by
  rw [partsOf, splitWhere_append hx hc, List.map_cons, ← List.singleton_append, List.filter_append]
  rfl

/-- **The first part of a line goes up to its first operator.** -/
theorem partsOf_free_append (hx : ∀ c ∈ x, isOperator c = false) (s : List Char) :
    partsOf (x ++ s) = partHere (x ++ s.takeWhile (!isOperator ·)) ++
      partsOf (s.dropWhile (!isOperator ·)) := by
  have hfree : ∀ c ∈ x ++ s.takeWhile (!isOperator ·), isOperator c = false :=
    List.forall_mem_append.2 ⟨hx, fun c hc => by simpa using List.mem_takeWhile_imp hc⟩
  have hsplit : x ++ s = (x ++ s.takeWhile (!isOperator ·)) ++ s.dropWhile (!isOperator ·) := by
    rw [List.append_assoc, List.takeWhile_append_dropWhile]
  rw [hsplit]
  cases hdrop : s.dropWhile (!isOperator ·) with
  | nil =>
    have hend : partsOf [] = [] := rfl
    rw [List.append_nil, partsOf_free hfree, hend, List.append_nil]
  | cons c more =>
    have hc : isOperator c = true := by simpa using (dropWhile_eq_cons_iff.1 hdrop).1
    have hone : ∀ o ∈ [c], isOperator o = true := List.forall_mem_singleton.2 hc
    have hrest : partsOf (c :: more) = partsOf more := partsOf_operators_append hone more
    rw [partsOf_split hfree hc, hrest]

theorem partsOf_blanks_append (ha : IsBlankRun a) (s : List Char) : partsOf (a ++ s) = partsOf s := by
  have hfree : ∀ c ∈ a, isOperator c = false := fun c hc => isOperator_of_isBlank (ha c hc)
  have hplain : partsOf s = _ := partsOf_free_append (x := []) (List.forall_mem_nil _) s
  rw [partsOf_free_append hfree, hplain, partHere, trim_blanks_append ha]
  rfl

theorem partsOf_append_blanks (hd : IsBlankRun d) (s : List Char) : partsOf (s ++ d) = partsOf s := by
  have hfree : ∀ c ∈ d, isOperator c = false := fun c hc => isOperator_of_isBlank (hd c hc)
  -- What has been passed over since the last operator goes along.
  suffices h : ∀ (s x : List Char), (∀ c ∈ x, isOperator c = false) →
      partsOf (x ++ (s ++ d)) = partsOf (x ++ s) by simpa using h s [] (List.forall_mem_nil _)
  intro s
  induction s with
  | nil =>
    intro x hx
    rw [List.nil_append, List.append_nil, partsOf_free (List.forall_mem_append.2 ⟨hx, hfree⟩),
      partsOf_free hx, partHere, partHere, trim_append_blanks hd]
  | cons c s ih =>
    intro x hx
    by_cases hc : isOperator c = true
    · have hrest : partsOf (s ++ d) = partsOf s := by simpa using ih [] (List.forall_mem_nil _)
      rw [List.cons_append, partsOf_split hx hc, partsOf_split hx hc, hrest]
    · have hxc : ∀ e ∈ x ++ [c], isOperator e = false :=
        List.forall_mem_append.2 ⟨hx, List.forall_mem_singleton.2 (Bool.eq_false_iff.2 hc)⟩
      simpa using ih (x ++ [c]) hxc

/-- **The parts of a line do not depend on the blanks around it.** -/
theorem partsOf_trim (s : List Char) : partsOf (trim s) = partsOf s := by
  obtain ⟨a, d, ha, hd, hs⟩ := exists_blanks_trim s
  conv_rhs => rw [hs]
  rw [partsOf_append_blanks hd, partsOf_blanks_append ha]

/-- A line with the name of a package and blanks around it. -/
inductive IsNameLine : List Char → String → Prop where
  | intro (name : String) {a b : List Char} (ha : IsBlankRun a) (hb : IsBlankRun b)
    (hname : IsRequirementName name.toList) : IsNameLine (a ++ name.toList ++ b) name

/-- A line with the name of a package, an operator and a version, and blanks around each. -/
inductive IsPinnedLine : List Char → String → String → Prop where
  | intro (name version : String) {a b o c d : List Char} (ha : IsBlankRun a) (hb : IsBlankRun b)
    (hc : IsBlankRun c) (hd : IsBlankRun d) (hname : IsRequirementName name.toList)
    (hversion : IsPart version.toList) (hne : o ≠ []) (ho : ∀ x ∈ o, isOperator x = true) :
    IsPinnedLine (a ++ (name.toList ++ (b ++ o ++ c) ++ version.toList) ++ d) name version

theorem IsNameLine.isRequirement (h : IsNameLine l name) :
    IsRequirement l (name, latestVersion) := by
  obtain ⟨name, ha, hb, hname⟩ := h
  exact .latest name ha hb hname

theorem IsPinnedLine.isRequirement (h : IsPinnedLine l name version) :
    IsRequirement l (name, version) := by
  obtain @⟨name, version, a, b, o, c, d, ha, hb, hc, hd, hname, hversion, hne, ho⟩ := h
  have hline := IsRequirement.constrained (r := []) name version ha hb hc hd hname hversion hne ho
    (by decide)
  rwa [List.append_nil, ← List.append_assoc] at hline

/-- What a comment adds to the part behind which it stands: the blanks between them, its mark and
its text up to the first operator, but no blanks at the end. -/
def spill (blanks comment : List Char) : List Char :=
  trimEnd (blanks ++ ' ' :: '#' :: ' ' :: comment.takeWhile (!isOperator ·))

/-- The version that a name gets from a comment behind it: what stands between the first two
operators that have more than blanks between them, and the latest one if there is no such part. -/
def versionAmid (comment : List Char) : String :=
  ((partsOf (comment.dropWhile (!isOperator ·))).head?.map String.ofList).getD latestVersion

theorem spill_eq (blanks comment : List Char) : spill blanks comment =
    blanks ++ ' ' :: '#' :: trimEnd (' ' :: comment.takeWhile (!isOperator ·)) := by
  have hmark := trimEnd_append_cons (c := '#') (by decide) (blanks ++ [' '])
    (' ' :: comment.takeWhile (!isOperator ·))
  rw [spill]
  simpa using hmark

/-- A name or a version that has grown by a comment behind its line. -/
def grown (part : String) (l comment : List Char) : String :=
  String.ofList (part.toList ++ spill (blanksBehind l) comment)

theorem grown_ne (part : String) (l comment : List Char) : grown part l comment ≠ part := by
  rw [Ne, ← String.toList_inj, grown, String.toList_ofList, List.append_right_eq_self, spill_eq]
  simp

theorem requirementOn?_of_name (ha : IsBlankRun a) (hname : IsRequirementName name.toList)
    {x : List Char} {parts : List (List Char)}
    (hparts : partsOf (a ++ (name.toList ++ s)) = x :: parts) :
    requirementOn? (a ++ (name.toList ++ s)) =
      some (String.ofList x, (parts.head?.map String.ofList).getD latestVersion) := by
  have htrim : trim (a ++ (name.toList ++ s)) = name.toList ++ trimEnd s := by
    rw [trim_blanks_append ha, trim_append hname.ne_nil hname.tight]
  have hhead : (name.toList ++ trimEnd s).head? = name.toList.head? :=
    List.head?_append_of_ne_nil _ hname.ne_nil
  rw [← partsOf_trim, htrim] at hparts
  rw [requirementOn?, htrim]
  exact requirement?_of_partsOf (hhead ▸ hname.not_comment) (hhead ▸ hname.not_option) hparts

/-- The part that a comment stands behind goes on with it. -/
theorem partsOf_annotated {b : List Char} (ha : IsBlankRun a) (hs : IsPart s) (hb : IsBlankRun b)
    (t : List Char) : partsOf (a ++ (s ++ (b ++ ' ' :: '#' :: ' ' :: t))) =
      (s ++ spill b t) :: partsOf (t.dropWhile (!isOperator ·)) := by
  have hblank : ∀ d, IsBlankRun d → ∀ c ∈ d, isOperator c = false := fun d hd c hc =>
    isOperator_of_isBlank (hd c hc)
  have hmark : ∀ c ∈ [' ', '#', ' '], isOperator c = false := by simp [isOperator]
  have hfree : ∀ c ∈ a ++ (s ++ (b ++ [' ', '#', ' '])), isOperator c = false :=
    List.forall_mem_append.2 ⟨hblank a ha, List.forall_mem_append.2
      ⟨hs.no_operator, List.forall_mem_append.2 ⟨hblank b hb, hmark⟩⟩⟩
  have htrim : trim (a ++ (s ++ (b ++ ' ' :: '#' :: ' ' :: t.takeWhile (!isOperator ·)))) =
      s ++ spill b t := by
    rw [trim_blanks_append ha, trim_append hs.ne_nil hs.tight, spill]
  have hparts := partsOf_free_append hfree t
  simp only [List.append_assoc, List.cons_append, List.nil_append] at hparts
  rw [hparts, partHere_of_ne_nil (by simp [htrim, hs.ne_nil]), htrim, List.singleton_append]

/-- **Behind a name a comment goes into the name**, and perhaps into the version too. -/
theorem requirementOn?_annotatedName (h : IsNameLine l name) (t : List Char) :
    requirementOn? (l ++ ' ' :: '#' :: ' ' :: t) =
      some (grown name l t, versionAmid t) := by
  obtain @⟨name, a, b, ha, hb, hname⟩ := h
  have hblanks : blanksBehind (a ++ name.toList ++ b) = b := by
    refine blanksBehind_append (fun c hc => hname.tight.last c ?_) hb
    rwa [List.getLast?_append_of_ne_nil _ hname.ne_nil] at hc
  have hline : a ++ name.toList ++ b ++ ' ' :: '#' :: ' ' :: t =
      a ++ (name.toList ++ (b ++ ' ' :: '#' :: ' ' :: t)) := by simp
  rw [hline, requirementOn?_of_name ha hname (partsOf_annotated ha hname.toIsPart hb t), grown,
    hblanks]
  rfl

/-- **Behind a version a comment goes into the version.** -/
theorem requirementOn?_annotatedPin (h : IsPinnedLine l name version) (t : List Char) :
    requirementOn? (l ++ ' ' :: '#' :: ' ' :: t) =
      some (name, grown version l t) := by
  obtain @⟨name, version, a, b, o, c, d, ha, hb, hc, hd, hname, hversion, hne, ho⟩ := h
  have hblanks : blanksBehind (a ++ (name.toList ++ (b ++ o ++ c) ++ version.toList) ++ d) = d := by
    refine blanksBehind_append (fun e he => hversion.tight.last e ?_) hd
    rwa [← List.append_assoc, List.getLast?_append_of_ne_nil _ hversion.ne_nil] at he
  have hline : a ++ (name.toList ++ (b ++ o ++ c) ++ version.toList) ++ d ++ ' ' :: '#' :: ' ' :: t =
      a ++ (name.toList ++ (b ++ (o ++ (c ++ (version.toList ++ (d ++ ' ' :: '#' :: ' ' :: t)))))) := by
    simp
  have hparts : partsOf (a ++ (name.toList ++
      (b ++ (o ++ (c ++ (version.toList ++ (d ++ ' ' :: '#' :: ' ' :: t))))))) =
      name.toList :: (version.toList ++ spill d t) :: partsOf (t.dropWhile (!isOperator ·)) := by
    have hbegins : BeginsOperator (o ++ (c ++ (version.toList ++ (d ++ ' ' :: '#' :: ' ' :: t)))) := by
      intro x hx
      rw [List.head?_append_of_ne_nil _ hne] at hx
      exact ho x (List.mem_of_head? hx)
    have hfirst := partsOf_padded ha hname.toIsPart hb hbegins
    rw [partsOf_operators_append ho, partsOf_annotated hc hversion hd] at hfirst
    simpa using hfirst
  rw [hline, requirementOn?_of_name ha hname hparts, grown, hblanks, String.ofList_toList]
  rfl

/-- **A comment on a line that declares a package is no comment.** Behind a name alone it makes
another package of it, and behind a version another version. So the packages stay the same iff each
that is concerned is settled by another line. -/
theorem dependencies_annotated {text comment : String} {above below : List (List Char)}
    (h : lines text.toList = above ++ l :: below) (hcomment : IsLine comment.toList) :
    (∀ name, IsNameLine l name →
      dependencies text = Table.ofList (above.filterMap requirementOn? ++
        (name, latestVersion) :: below.filterMap requirementOn?) ∧
      dependencies (commentLine "#" comment above.length text) =
        Table.ofList (above.filterMap requirementOn? ++
          (grown name l comment.toList, versionAmid comment.toList) ::
            below.filterMap requirementOn?) ∧
      (Table.Same (dependencies (commentLine "#" comment above.length text)) (dependencies text) ↔
        (grown name l comment.toList ∈ Entries.keys (below.filterMap requirementOn?) ∨
          Entries.last? (grown name l comment.toList) (above.filterMap requirementOn?) =
            some (versionAmid comment.toList)) ∧
        (name ∈ Entries.keys (below.filterMap requirementOn?) ∨
          Entries.last? name (above.filterMap requirementOn?) = some latestVersion))) ∧
    ∀ name version, IsPinnedLine l name version →
      dependencies text = Table.ofList (above.filterMap requirementOn? ++
        (name, version) :: below.filterMap requirementOn?) ∧
      dependencies (commentLine "#" comment above.length text) =
        Table.ofList (above.filterMap requirementOn? ++
          (name, grown version l comment.toList) :: below.filterMap requirementOn?) ∧
      (Table.Same (dependencies (commentLine "#" comment above.length text)) (dependencies text) ↔
        name ∈ Entries.keys (below.filterMap requirementOn?)) := by
  have hmark : IsLine "#".toList := by decide
  have hcommented := lines_commentLine h hmark hcomment
  have hread : ∀ {text : String} {l : List Char} {p : String × String},
      lines text.toList = above ++ l :: below → requirementOn? l = some p →
      dependencies text =
        Table.ofList (above.filterMap requirementOn? ++ p :: below.filterMap requirementOn?) := by
    intro text l p hlines hp
    have hall : requirements text.toList = (lines text.toList).filterMap requirementOn? := rfl
    rw [dependencies, hall, hlines, List.filterMap_append, List.filterMap_cons_some hp]
  refine ⟨fun name hname => ?_, fun name version hpin => ?_⟩
  · have hbefore := hread h (requirementOn?_of_isRequirement hname.isRequirement)
    have hafter := hread hcommented (requirementOn?_annotatedName hname comment.toList)
    exact ⟨hbefore, hafter, by rw [hbefore, hafter, Table.same_key_iff (grown_ne name l _)]⟩
  · have hbefore := hread h (requirementOn?_of_isRequirement hpin.isRequirement)
    have hafter := hread hcommented (requirementOn?_annotatedPin hpin comment.toList)
    refine ⟨hbefore, hafter, ?_⟩
    rw [hbefore, hafter, Table.same_value_iff, or_iff_left (grown_ne version l _)]

/-- The lines of a list that asks for a package twice. -/
def askedLines : List (List Char) :=
  ["flask==2.0".toList, "requests".toList, "flask >= 2.1 ".toList]

/-- That list as a text. -/
def askedText : String := String.ofList (endLines askedLines)

/-- The first line is settled by the last; behind the name a comment with an operator makes another
package of another version, and behind the last line the blank before the comment stays too. -/
theorem dependencies_annotated_asked :
    lines askedText.toList = askedLines ∧
    Table.Same (dependencies (commentLine "#" "pinned" 0 askedText)) (dependencies askedText) ∧
    (dependencies (commentLine "#" "any >= 1" 1 askedText)).get? "requests # any" = some "1" ∧
    ¬ Table.Same (dependencies (commentLine "#" "any >= 1" 1 askedText)) (dependencies askedText) ∧
    (dependencies (commentLine "#" "pinned" 2 askedText)).get? "flask" = some "2.1  # pinned" := by
  have hlines : lines askedText.toList = askedLines := by
    rw [askedText, String.toList_ofList, lines_endLines (by decide +kernel)]
  have hflask : IsRequirementName "flask".toList := ⟨by decide, by decide, by decide⟩
  have hequals : ∀ x ∈ ['=', '='], isOperator x = true := by simp [isOperator]
  have hatLeast : ∀ x ∈ ['>', '='], isOperator x = true := by simp [isOperator]
  have hnone : IsBlankRun [] := by decide
  have hblank : IsBlankRun [' '] := by decide
  have hfirst : IsPinnedLine "flask==2.0".toList "flask" "2.0" :=
    .intro "flask" "2.0" (a := []) (b := []) (o := ['=', '=']) (c := []) (d := [])
      hnone hnone hnone hnone hflask (by decide) (by decide) hequals
  have hrequests : IsRequirementName "requests".toList := ⟨by decide, by decide, by decide⟩
  have hname : IsNameLine "requests".toList "requests" :=
    .intro "requests" (a := []) (b := []) hnone hnone hrequests
  have hlast : IsPinnedLine "flask >= 2.1 ".toList "flask" "2.1" :=
    .intro "flask" "2.1" (a := []) (b := [' ']) (o := ['>', '=']) (c := [' ']) (d := [' '])
      hnone hblank hblank hblank hflask (by decide) (by decide) hatLeast
  have hpinned : IsLine "pinned".toList := by decide
  have hany : IsLine "any >= 1".toList := by decide
  have hbegin : lines askedText.toList = [] ++ "flask==2.0".toList :: askedLines.drop 1 := hlines
  have hmiddle : lines askedText.toList =
      askedLines.take 1 ++ "requests".toList :: askedLines.drop 2 := hlines
  have hend : lines askedText.toList = askedLines.take 2 ++ ["flask >= 2.1 ".toList] := hlines
  obtain ⟨-, -, hsettled⟩ := (dependencies_annotated hbegin hpinned).2 "flask" "2.0" hfirst
  obtain ⟨-, hrenamed, hshown⟩ := (dependencies_annotated hmiddle hany).1 "requests" hname
  obtain ⟨-, hgrown, -⟩ := (dependencies_annotated hend hpinned).2 "flask" "2.1" hlast
  refine ⟨hlines, hsettled.2 (by decide +kernel), ?_, fun hsame => ?_, ?_⟩
  · have hread : dependencies (commentLine "#" "any >= 1" 1 askedText) = _ := hrenamed
    rw [hread]
    decide +kernel
  · exact absurd (hshown.1 hsame) (by decide +kernel)
  · have hread : dependencies (commentLine "#" "pinned" 2 askedText) = _ := hgrown
    rw [hread]
    decide +kernel

/-- A list of a version and a name. -/
def plainText : String := "flask==2.0.1\nrequests\n"

/-- A comment on either line of a list changes what it holds. -/
theorem dependencies_plainText_annotated :
    lines plainText.toList = ["flask==2.0.1".toList, "requests".toList] ∧
    IsPinnedLine "flask==2.0.1".toList "flask" "2.0.1" ∧ IsNameLine "requests".toList "requests" ∧
    IsLine "pinned".toList ∧
    ¬ Table.Same (dependencies (commentLine "#" "pinned" 0 plainText)) (dependencies plainText) ∧
    ¬ Table.Same (dependencies (commentLine "#" "pinned" 1 plainText)) (dependencies plainText) := by
  have hequals : ∀ x ∈ ['=', '='], isOperator x = true := by simp [isOperator]
  have hnone : IsBlankRun [] := by decide
  have hflask : IsRequirementName "flask".toList := ⟨by decide, by decide, by decide⟩
  have hpin : IsPinnedLine "flask==2.0.1".toList "flask" "2.0.1" :=
    .intro "flask" "2.0.1" (a := []) (b := []) (o := ['=', '=']) (c := []) (d := [])
      hnone hnone hnone hnone hflask (by decide) (by decide) hequals
  have hrequests : IsRequirementName "requests".toList := ⟨by decide, by decide, by decide⟩
  have hname : IsNameLine "requests".toList "requests" :=
    .intro "requests" (a := []) (b := []) hnone hnone hrequests
  exact ⟨by decide +kernel, hpin, hname, by decide, by decide +kernel, by decide +kernel⟩

end Fingerprint.RequirementList
