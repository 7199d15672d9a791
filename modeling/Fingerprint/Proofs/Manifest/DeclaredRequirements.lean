/-
What a requirement list declares. A line is blank, a comment or an option, or
it declares a package: by its name alone, or with constraints, each an
operator and a version. The first version counts, whatever the operators and
the blanks between them (`requirementOn?_of_isRequirement`), and the list
holds what its lines declare, the last one of a name winning
(`dependencies_of_requirementLines`).
-/
import Fingerprint.Manifest.RequirementList
import Fingerprint.Proofs.Entries
import Fingerprint.Proofs.Manifest.Lines
import Fingerprint.Proofs.Text.Pieces

namespace Fingerprint.RequirementList

open Text

/-- Whether a text is empty or begins with an operator. -/
def BeginsOperator (s : List Char) : Prop := ∀ c, s.head? = some c → isOperator c = true

/-- Whether a text can be a name or a version between operators and blanks. -/
structure IsPart (s : List Char) : Prop where
  ne_nil : s ≠ []
  tight : IsTight s
  no_operator : ∀ c ∈ s, isOperator c = false

instance : DecidablePred BeginsOperator := fun s => Option.decidableForallMem s.head?

instance : DecidablePred IsPart := fun s =>
  have : Decidable (∀ c ∈ s, isOperator c = false) := List.decidableBAll _ s
  decidable_of_iff (s ≠ [] ∧ IsTight s ∧ ∀ c ∈ s, isOperator c = false)
    ⟨fun h => ⟨h.1, h.2.1, h.2.2⟩, fun h => ⟨h.ne_nil, h.tight, h.no_operator⟩⟩

/-- Whether a text can be the name of a package: it does not begin like a comment or an option. -/
structure IsRequirementName (name : List Char) : Prop extends IsPart name where
  not_comment : name.head? ≠ some '#'
  not_option : name.head? ≠ some '-'

/-- Whether a line declares nothing: blank, a comment, or an option. -/
inductive IsIdle : List Char → Prop where
  | blank {l : List Char} (h : IsBlankRun l) : IsIdle l
  | comment {a r : List Char} (h : IsBlankRun a) : IsIdle (a ++ '#' :: r)
  | option {a r : List Char} (h : IsBlankRun a) : IsIdle (a ++ '-' :: r)

/-- A line `name`, which stands for the latest version, or a line `name operator version` and
perhaps more constraints, with blanks around the parts. -/
inductive IsRequirement : List Char → String × String → Prop where
  | latest (name : String) {a b : List Char} (ha : IsBlankRun a) (hb : IsBlankRun b)
    (hname : IsRequirementName name.toList) : IsRequirement (a ++ name.toList ++ b) (name, "latest")
  | constrained (name version : String) {a b o c d r : List Char} (ha : IsBlankRun a)
    (hb : IsBlankRun b) (hc : IsBlankRun c) (hd : IsBlankRun d)
    (hname : IsRequirementName name.toList) (hversion : IsPart version.toList) (hne : o ≠ [])
    (ho : ∀ x ∈ o, isOperator x = true) (hr : BeginsOperator r) :
    IsRequirement (a ++ ((name.toList ++ (b ++ o ++ c) ++ version.toList) ++ (d ++ r)))
      (name, version)

variable {s x more operator b c : List Char}

theorem isOperator_of_isBlank {c : Char} (h : isBlank c = true) : isOperator c = false := by
  rw [← Bool.not_eq_true]
  intro ho
  simp only [isOperator, Bool.or_eq_true, decide_eq_true_eq] at ho
  rcases ho with (((rfl | rfl) | rfl) | rfl) | rfl <;> cases h

theorem partsOf_operators_append (h : ∀ o ∈ operator, isOperator o = true) (s : List Char) :
    partsOf (operator ++ s) = partsOf s := by
  induction operator with
  | nil => rfl
  | cons o operator ih =>
    obtain ⟨ho, hrest⟩ := List.forall_mem_cons.1 h
    have hsplit : splitWhere isOperator (o :: (operator ++ s)) =
        [] :: splitWhere isOperator (operator ++ s) := by rw [splitWhere, if_pos ho]
    rw [← ih hrest, List.cons_append, partsOf, hsplit]
    rfl

/-- A part ends where an operator follows, or at the end of the line. -/
theorem partsOf_append (hx : ∀ c ∈ x, isOperator c = false) (hne : trim x ≠ [])
    (hmore : BeginsOperator more) : partsOf (x ++ more) = trim x :: partsOf more := by
  have hkeep : (!(trim x).isEmpty) = true := by simpa using hne
  cases more with
  | nil =>
    rw [List.append_nil, partsOf, splitWhere_of_forall hx, List.map_singleton, List.filter_cons,
      if_pos hkeep]
    rfl
  | cons o more =>
    have ho : isOperator o = true := hmore o rfl
    have hone : ∀ c ∈ [o], isOperator c = true := List.forall_mem_singleton.2 ho
    have hrest : partsOf (o :: more) = partsOf more := partsOf_operators_append hone more
    rw [hrest, partsOf, splitWhere_append hx ho, List.map_cons, List.filter_cons,
      if_pos hkeep]
    rfl

theorem partsOf_padded (hb : IsBlankRun b) (hs : IsPart s) (hc : IsBlankRun c)
    (hmore : BeginsOperator more) : partsOf (b ++ s ++ c ++ more) = s :: partsOf more := by
  have htrim : trim (b ++ s ++ c) = s := trim_padded hb hs.tight hc
  have hfree : ∀ d ∈ b ++ s ++ c, isOperator d = false := by
    intro d hd
    rw [List.mem_append, List.mem_append] at hd
    rcases hd with (hd | hd) | hd
    · exact isOperator_of_isBlank (hb d hd)
    · exact hs.no_operator d hd
    · exact isOperator_of_isBlank (hc d hd)
  rw [partsOf_append hfree (by rw [htrim]; exact hs.ne_nil) hmore, htrim]

/-- What follows a version is trimmed only behind its last operator. -/
theorem exists_trimEnd (hb : IsBlankRun b) (hmore : BeginsOperator more) :
    ∃ b' more', trimEnd (b ++ more) = b' ++ more' ∧ IsBlankRun b' ∧ BeginsOperator more' := by
  cases more with
  | nil => exact ⟨[], [], by rw [List.append_nil, trimEnd_of_isBlankRun hb]; rfl, nofun, nofun⟩
  | cons o more =>
    have ho : isOperator o = true := hmore o rfl
    have hend := trimEnd_append (w := b ++ [o]) (by simp) (fun c hc => ?_) more
    · refine ⟨b, o :: trimEnd more, by simpa using hend, hb, fun c hc => ?_⟩
      cases hc
      exact ho
    · rw [List.getLast?_concat, Option.some.injEq] at hc
      rw [← hc, ← Bool.not_eq_true]
      intro hblank
      rw [isOperator_of_isBlank hblank] at ho
      cases ho

/-- The requirement on a line, if there is one. -/
def requirementOn? (line : List Char) : Option (String × String) := requirement? (trim line)

theorem requirement?_of_partsOf {parts : List (List Char)} (hcomment : s.head? ≠ some '#')
    (hoption : s.head? ≠ some '-') (hparts : partsOf s = x :: parts) :
    requirement? s =
      some (String.ofList x, (parts.head?.map String.ofList).getD latestVersion) := by
  cases s with
  | nil => cases hparts
  | cons c s =>
    rw [List.head?_cons, Ne, Option.some.injEq] at hcomment hoption
    rw [requirement?, if_neg (not_or.2 ⟨hcomment, hoption⟩), hparts]
    cases parts <;> rfl

theorem requirementOn?_of_isIdle (h : IsIdle s) : requirementOn? s = none := by
  cases h with
  | blank h =>
    rw [requirementOn?, trim_of_isBlankRun h]
    rfl
  | comment h =>
    rw [requirementOn?, trim_blanks_append h, trim_cons (by decide)]
    rfl
  | option h =>
    rw [requirementOn?, trim_blanks_append h, trim_cons (by decide)]
    rfl

/-- **A requirement is read as its name and first version**, whatever its operators are and however
it is spaced. -/
theorem requirementOn?_of_isRequirement {p : String × String} (h : IsRequirement s p) :
    requirementOn? s = some p := by
  cases h with
  | @latest name a b ha hb hname =>
    have hparts : partsOf name.toList = [name.toList] := by
      have hempty : BeginsOperator [] := nofun
      have hpart := partsOf_padded (b := []) (c := []) nofun hname.toIsPart nofun hempty
      have hend : partsOf [] = [] := rfl
      simpa [hend] using hpart
    rw [requirementOn?, trim_padded ha hname.tight hb,
      requirement?_of_partsOf hname.not_comment hname.not_option hparts, String.ofList_toList]
    rfl
  | @constrained name version a b o c d r ha hb hc hd hname hversion hne ho hr =>
    obtain ⟨d', r', htail, hd', hr'⟩ := exists_trimEnd hd hr
    have htight := hname.tight.append hname.ne_nil hversion.tight hversion.ne_nil (b ++ o ++ c)
    have htrim := trim_append (by simp [hname.ne_nil]) htight (d ++ r)
    have hbegins : BeginsOperator (o ++ (c ++ version.toList ++ d' ++ r')) := by
      intro x hx
      rw [List.head?_append_of_ne_nil _ hne] at hx
      exact ho x (List.mem_of_head? hx)
    have hparts : partsOf ((name.toList ++ (b ++ o ++ c) ++ version.toList) ++ (d' ++ r')) =
        name.toList :: version.toList :: partsOf r' := by
      have hfirst := partsOf_padded (b := []) nofun hname.toIsPart hb hbegins
      rw [partsOf_operators_append ho, partsOf_padded hc hversion hd' hr'] at hfirst
      simpa using hfirst
    have hhead : ∀ x, ((name.toList ++ (b ++ o ++ c) ++ version.toList) ++ x).head? =
        name.toList.head? := by
      intro x
      rw [List.append_assoc, List.append_assoc, List.head?_append_of_ne_nil _ hname.ne_nil]
    have hcomment := hname.not_comment
    have hoption := hname.not_option
    rw [← hhead (d' ++ r')] at hcomment hoption
    rw [requirementOn?, trim_blanks_append ha, htrim, htail,
      requirement?_of_partsOf hcomment hoption hparts, String.ofList_toList, List.head?_cons,
      Option.map_some, String.ofList_toList]
    rfl

/-- **A requirement list holds what its lines declare**, the last line of a name winning. -/
theorem dependencies_of_requirementLines {text : String} {ps : List (String × String)}
    (h : LinesDeclare IsIdle IsRequirement (lines text.toList) ps) (name : String) :
    (dependencies text).get? name = Entries.last? name ps := by
  have hpairs : requirements text.toList = ps :=
    h.filterMap_eq (fun _ hl => requirementOn?_of_isIdle hl)
      fun _ _ hl => requirementOn?_of_isRequirement hl
  rw [dependencies, hpairs, Table.get?_ofList]

/-- The lines of a list that asks for one package twice. -/
def repeatedLines : List (List Char) := [
  "  # pinned".toList, "-r base.txt".toList, "flask==2.0".toList, [], "\tuvicorn[standard] ".toList,
  " flask >= 3.0 ,<4, !=3.1".toList, "typing extensions ~=4.8 , ".toList]

/-- That list as a text. -/
def repeatedText : String := String.ofList (endLines repeatedLines)

/-- The second request counts, with all that stands before its second operator. -/
theorem dependencies_repeatedText :
    LinesDeclare IsIdle IsRequirement (lines repeatedText.toList)
      [("flask", "2.0"), ("uvicorn[standard]", "latest"), ("flask", "3.0 ,"),
        ("typing extensions", "4.8 ,")] ∧
    (dependencies repeatedText).get? "flask" = some "3.0 ," ∧
    (dependencies repeatedText).get? "uvicorn[standard]" = some "latest" := by
  have hlines : lines repeatedText.toList = repeatedLines := by
    rw [repeatedText, String.toList_ofList, lines_endLines (by decide +kernel)]
  have hflask : IsRequirementName "flask".toList :=
    ⟨by decide, by decide, by decide⟩
  have hequals : ∀ x ∈ ['=', '='], isOperator x = true := by simp [isOperator]
  have hatLeast : ∀ x ∈ ['>', '='], isOperator x = true := by simp [isOperator]
  have hcompatible : ∀ x ∈ ['~', '='], isOperator x = true := by simp [isOperator]
  have hfirst : IsRequirement "flask==2.0".toList ("flask", "2.0") :=
    .constrained "flask" "2.0" (a := []) (b := []) (o := ['=', '=']) (c := []) (d := []) (r := [])
      nofun nofun nofun nofun hflask (by decide) (by decide) hequals nofun
  have hlatest : IsRequirement "\tuvicorn[standard] ".toList ("uvicorn[standard]", "latest") :=
    .latest "uvicorn[standard]" (a := ['\t']) (b := [' ']) (by decide) (by decide)
      ⟨by decide, by decide, by decide⟩
  have hsecond : IsRequirement " flask >= 3.0 ,<4, !=3.1".toList ("flask", "3.0 ,") :=
    .constrained "flask" "3.0 ," (a := [' ']) (b := [' ']) (o := ['>', '=']) (c := [' ']) (d := [])
      (r := "<4, !=3.1".toList) (by decide) (by decide) (by decide) nofun hflask (by decide)
      (by decide) hatLeast (by decide)
  have hlast : IsRequirement "typing extensions ~=4.8 , ".toList ("typing extensions", "4.8 ,") :=
    .constrained "typing extensions" "4.8 ," (a := []) (b := [' ']) (o := ['~', '=']) (c := [])
      (d := [' ']) (r := []) nofun (by decide) nofun (by decide) ⟨by decide, by decide, by decide⟩
      (by decide) (by decide) hcompatible nofun
  have hlist : LinesDeclare IsIdle IsRequirement (lines repeatedText.toList)
      [("flask", "2.0"), ("uvicorn[standard]", "latest"), ("flask", "3.0 ,"),
        ("typing extensions", "4.8 ,")] := by
    rw [hlines]
    exact .idle (.comment (a := [' ', ' ']) (r := " pinned".toList) (by decide))
      (.idle (.option (a := []) (r := "r base.txt".toList) nofun) (.declares hfirst
        (.idle (.blank nofun) (.declares hlatest (.declares hsecond (.declares hlast .nil))))))
  have hholds := dependencies_of_requirementLines hlist
  exact ⟨hlist, hholds "flask", hholds "uvicorn[standard]"⟩

end Fingerprint.RequirementList
