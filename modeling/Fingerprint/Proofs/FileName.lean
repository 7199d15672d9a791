/-
File names in paths as they are written. A text is made of components with a
slash between each two. The last one that is neither empty nor a single dot is
the name of the path (`isLastName_iff`), and the extension of the path is what
this name ends in with something before it (`suffix_eq_iff`). What hangs on the
name alone hangs on no directory before it and on no slash or single dot more
(`ignoresSpelling_name`).
-/
import Fingerprint.Path
import Fingerprint.Proofs.Text.Pieces

namespace Fingerprint.Path

open Text

variable {c e n s t : List Char} {cs : List (List Char)} {x y : String}

/-- Whether a text is made of these components: they hold no slash, and one stands between each
two. -/
structure AreComponents (e : List Char) (cs : List (List Char)) : Prop where
  ne_nil : cs ≠ []
  no_slash : ∀ c ∈ cs, '/' ∉ c
  joined : ['/'].intercalate cs = e

/-- Whether a component is passed over: it is empty or a single dot. -/
def IsIdle (c : List Char) : Prop := c = [] ∨ c = ['.']

/-- The last component that is not passed over, or nothing where there is none. -/
inductive IsLastName (e : List Char) : List Char → Prop where
  | named {front rest : List (List Char)} {n : List Char}
      (hcs : AreComponents e (front ++ n :: rest)) (hn : ¬ IsIdle n)
      (hrest : ∀ c ∈ rest, IsIdle c) : IsLastName e n
  | nameless {cs : List (List Char)} (hcs : AreComponents e cs) (hidle : ∀ c ∈ cs, IsIdle c) :
      IsLastName e []

theorem isKept_eq_true_iff : isKept c = true ↔ ¬ IsIdle c := by simp [isKept, IsIdle]

theorem filter_isKept_eq_nil_iff : cs.filter isKept = [] ↔ ∀ c ∈ cs, IsIdle c := by
  simp [List.filter_eq_nil_iff, isKept_eq_true_iff]

theorem areComponents_iff : AreComponents e cs ↔ splitOn '/' e = cs := by
  rw [splitOn, splitWhere_eq_splitOnP]
  constructor
  · rintro ⟨hne, hfree, rfl⟩
    exact List.splitOn_intercalate '/' hfree hne
  · rintro rfl
    refine ⟨List.splitOnP_ne_nil _ _, fun c hc hslash => ?_, List.intercalate_splitOn '/'⟩
    rw [← splitWhere_eq_splitOnP] at hc
    simpa using (mem_of_mem_splitWhere c hc '/' hslash).2

theorem name_ofString (s : String) :
    (ofString s).name.toList = ((splitOn '/' s.toList).filter isKept).getLastD [] := by
  simp only [name, ofString, partsOf, List.getLastD_eq_getLast?, List.getLast?_map]
  cases ((splitOn '/' s.toList).filter isKept).getLast? <;> simp

/-- **The name of a path is the last name in its text**, and no text has another. -/
theorem isLastName_iff {s : String} : IsLastName s.toList n ↔ (ofString s).name.toList = n := by
  rw [name_ofString]
  constructor
  · rintro (⟨hcs, hn, hrest⟩ | ⟨hcs, hidle⟩)
    · rw [areComponents_iff.1 hcs, List.filter_append,
        List.filter_cons_of_pos (isKept_eq_true_iff.2 hn), filter_isKept_eq_nil_iff.2 hrest,
        List.getLastD_concat]
    · rw [areComponents_iff.1 hcs, filter_isKept_eq_nil_iff.2 hidle]
      rfl
  · rintro rfl
    rcases List.eq_nil_or_concat ((splitOn '/' s.toList).filter isKept) with hnone | ⟨ps, m, hlast⟩
    · rw [hnone]
      exact .nameless (areComponents_iff.2 rfl) (filter_isKept_eq_nil_iff.1 hnone)
    · rw [List.concat_eq_append] at hlast
      rw [hlast, List.getLastD_concat]
      obtain ⟨before, after, hsplit, -, hafter⟩ := List.filter_eq_append_iff.1 hlast
      obtain ⟨idle, rest, rfl, -, hm, hrest⟩ := List.filter_eq_cons_iff.1 hafter
      have hcs : AreComponents s.toList (before ++ idle ++ m :: rest) := by
        rw [areComponents_iff, hsplit, List.append_assoc]
      exact .named hcs (isKept_eq_true_iff.1 hm) (filter_isKept_eq_nil_iff.1 hrest)

instance {s : String} {n : List Char} : Decidable (IsLastName s.toList n) :=
  decidable_of_iff _ isLastName_iff.symm

/-- Whether a text is an extension: a dot and then characters that are no dots, one at least. -/
def IsExtension (x : String) : Prop := ∃ t, x.toList = '.' :: t ∧ t ≠ [] ∧ '.' ∉ t

/-- Whether a name is made of an extension and something before it. -/
def HasExtension (n : List Char) (x : String) : Prop := ∃ stem, stem ≠ [] ∧ n = stem ++ x.toList

theorem afterLastDot?_append (hdot : '.' ∉ t) (stem : List Char) :
    afterLastDot? (stem ++ '.' :: t) = some t := by
  have hreverse : (stem ++ '.' :: t).reverse = t.reverse ++ '.' :: stem.reverse := by simp
  have htail : (t.reverse ++ '.' :: stem.reverse).takeWhile (· != '.') = t.reverse :=
    takeWhile_append_stop (bne_of_not_mem (by simpa using hdot)) rfl stem.reverse
  rw [afterLastDot?, if_pos (by simp), hreverse, htail, List.reverse_reverse]

theorem afterLastDot?_eq_some_iff :
    afterLastDot? s = some t ↔ '.' ∉ t ∧ ∃ stem, s = stem ++ '.' :: t := by
  constructor
  · intro h
    have hmem : '.' ∈ s.reverse := by simpa using (Option.ite_none_right_eq_some.1 h).1
    -- The last dot of a text is the first one of the text read backwards.
    obtain ⟨tail, stem, hs, hfree⟩ := List.eq_append_cons_of_mem hmem
    have hsplit : s = stem.reverse ++ '.' :: tail.reverse := by
      rw [← List.reverse_reverse s, hs]
      simp
    rw [hsplit, afterLastDot?_append (by simpa using hfree)] at h
    cases h
    exact ⟨by simpa using hfree, _, hsplit⟩
  · rintro ⟨hdot, stem, rfl⟩
    exact afterLastDot?_append hdot stem

/-- **The extension of a name** is the last dot and what follows it, where something does and
something stands before it. -/
theorem suffixOf_eq_cons_iff (ht : t ≠ []) (hdot : '.' ∉ t) :
    suffixOf n = '.' :: t ↔ ∃ stem, stem ≠ [] ∧ n = stem ++ '.' :: t := by
  constructor
  · intro h
    unfold suffixOf at h
    split at h
    next => cases h
    next tail htail =>
      obtain ⟨-, stem, rfl⟩ := afterLastDot?_eq_some_iff.1 htail
      split at h
      next => cases h
      next hlength =>
        cases h
        refine ⟨stem, ?_, rfl⟩
        rintro rfl
        simp at hlength
  · rintro ⟨stem, hstem, rfl⟩
    simp [suffixOf, afterLastDot?_append hdot, ht, hstem]

theorem suffix_eq_iff (p : Path) (hx : IsExtension x) :
    p.suffix = x ↔ HasExtension p.name.toList x := by
  obtain ⟨t, hx, ht, hdot⟩ := hx
  rw [HasExtension, hx, ← suffixOf_eq_cons_iff ht hdot, ← hx, ← String.toList_inj, suffix,
    String.toList_ofList]

theorem not_hasExtension_of_isExtension (hx : IsExtension x) (hy : IsExtension y) :
    ¬ HasExtension x.toList y := by
  obtain ⟨t, hx, -, hdot⟩ := hx
  obtain ⟨u, hy, -, -⟩ := hy
  rintro ⟨stem, hstem, hname⟩
  rw [hx, hy] at hname
  cases stem with
  | nil => exact hstem rfl
  | cons d stem =>
    rw [List.cons_append, List.cons.injEq] at hname
    rw [hname.2] at hdot
    simp at hdot

@[simp] theorem partsOf_nil : partsOf [] = [] := rfl

@[simp] theorem partsOf_dot : partsOf ['.'] = [] := rfl

/-- **The components on both sides of a slash** are kept side by side. -/
@[simp] theorem partsOf_append_slash (a b : List Char) :
    partsOf (a ++ '/' :: b) = partsOf a ++ partsOf b := by
  rw [partsOf, splitOn_append, List.filter_append, List.map_append]
  rfl

@[simp] theorem partsOf_cons_slash (b : List Char) : partsOf ('/' :: b) = partsOf b :=
  partsOf_append_slash [] b

@[simp] theorem partsOf_dot_slash (b : List Char) : partsOf ('.' :: '/' :: b) = partsOf b :=
  partsOf_append_slash ['.'] b

theorem name_congr {a b : String} (h : partsOf a.toList = partsOf b.toList) :
    (ofString a).name = (ofString b).name := congrArg (List.getLastD · "") h

/-- Where there is a last name, the directories before it are passed over. -/
theorem name_below (d : String) {a : String} (h : ¬ IsLastName a.toList []) :
    (ofString (d ++ "/" ++ a)).name = (ofString a).name := by
  have hne : partsOf a.toList ≠ [] := fun hnil =>
    h (isLastName_iff.2 (by rw [name, ofString, hnil]; rfl))
  have hparts : partsOf (d ++ "/" ++ a).toList = partsOf d.toList ++ partsOf a.toList := by simp
  rw [name, name, ofString, ofString, hparts, List.getLastD_eq_getLast?,
    List.getLast?_append_of_ne_nil _ hne, List.getLastD_eq_getLast?]

/-- Whether nothing changes with the directories that a name stands in, with slashes that are
repeated or stand at the end, or with components of a single dot. -/
structure IgnoresSpelling {α : Type} (f : String → α) : Prop where
  directory : ∀ d a, ¬ IsLastName a.toList [] → f (d ++ "/" ++ a) = f a
  slashes : ∀ a b, f (a ++ "//" ++ b) = f (a ++ "/" ++ b)
  slash_last : ∀ a, f (a ++ "/") = f a
  dot_first : ∀ a, f ("./" ++ a) = f a
  dot : ∀ a b, f (a ++ "/./" ++ b) = f (a ++ "/" ++ b)
  dot_last : ∀ a, f (a ++ "/.") = f a

/-- **What hangs on the last name alone ignores the spelling of a path.** -/
theorem ignoresSpelling_name {α : Type} (g : String → α) :
    IgnoresSpelling fun a => g (ofString a).name where
  directory d _ h := congrArg g (name_below d h)
  slashes a b := congrArg g (name_congr (by simp))
  slash_last a := congrArg g (name_congr (by simp))
  dot_first a := congrArg g (name_congr (by simp))
  dot a b := congrArg g (name_congr (by simp))
  dot_last a := congrArg g (name_congr (by simp))

end Fingerprint.Path
