/-
Manifests written one below the other. A reader goes through the lines with a
state and leaves the pairs behind that each line gives, so what lines below
others give depends on these only through the state (`scan_append`). A reader
of single lines has no state, a section of a crate manifest ends at the line
that opens the next one, and a block of a module list may be left open
(`LeavesOpen`). Where nothing is left open, both manifests together hold what
the first holds, updated with what the second holds (`read_joined`).
-/
import Fingerprint.Manifest.Reading
import Fingerprint.Proofs.Manifest.CrateSections
import Fingerprint.Proofs.Manifest.DeclaredRequirements
import Fingerprint.Proofs.Manifest.QuotedDeclarations
import Fingerprint.Proofs.Manifest.RequiredModules
import Fingerprint.Proofs.Text.LineBreaks

namespace Fingerprint

open Text

section Scanning

variable {σ : Type} {scan : σ → List (List Char) → List (String × String)}
  {step : σ → List Char → σ}

/-- Lines below others are read in the state in which these leave the reader. -/
theorem scan_append (hnil : ∀ s, scan s [] = [])
    (hcons : ∀ s l, ∃ ps, ∀ ls, scan s (l :: ls) = ps ++ scan (step s l) ls) (s : σ)
    (above below : List (List Char)) :
    scan s (above ++ below) = scan s above ++ scan (above.foldl step s) below := by
  induction above generalizing s with
  | nil => rw [hnil]; rfl
  | cons l above ih =>
    obtain ⟨ps, hps⟩ := hcons s l
    rw [List.cons_append, hps, hps, ih, List.append_assoc, List.foldl_cons]

/-- What two texts give one below the other, if the lines of the first do not change what those of
the second give, nor does an empty line between them. -/
theorem ofList_joined {pairs : List (List Char) → List (String × String)} {a b : String}
    (h : ∀ gap, gap = [] ∨ gap = [[]] → pairs (lines a.toList ++ (gap ++ lines b.toList)) =
      pairs (lines a.toList) ++ pairs (lines b.toList)) :
    Table.ofList (pairs (lines (a ++ "\n" ++ b).toList)) =
      (Table.ofList (pairs (lines a.toList))).update (Table.ofList (pairs (lines b.toList))) := by
  obtain ⟨gap, hgap, hlines⟩ := lines_append_newline a.toList b.toList
  have htext : (a ++ "\n" ++ b).toList = a.toList ++ '\n' :: b.toList := by simp
  rw [htext, hlines, h gap hgap, Table.ofList_append]

end Scanning

variable {above below gap : List (List Char)} {inside : Bool} {a b : String}

theorem filterMap_joined {f : List Char → Option (String × String)} (hf : f [] = none)
    (hgap : gap = [] ∨ gap = [[]]) (above below : List (List Char)) :
    (above ++ (gap ++ below)).filterMap f = above.filterMap f ++ below.filterMap f := by
  rw [List.filterMap_append]
  rcases hgap with rfl | rfl
  · rfl
  · rw [List.singleton_append, List.filterMap_cons_none hf]

theorem RequirementList.dependencies_joined (a b : String) :
    dependencies (a ++ "\n" ++ b) = (dependencies a).update (dependencies b) :=
  ofList_joined fun _ hgap => filterMap_joined rfl hgap _ _

theorem Declarations.dependencies_joined (keyword a b : String) :
    dependencies keyword (a ++ "\n" ++ b) =
      (dependencies keyword a).update (dependencies keyword b) := by
  have hempty : IsIdle keyword [] := by simp [IsIdle, trim, trimStart, trimEnd]
  exact ofList_joined fun _ hgap => filterMap_joined (declarationOn?_of_isIdle hempty) hgap _ _

namespace CrateManifest

/-- Whether a reader is within a section of packages below a line. -/
def staysInside (inside : Bool) (l : List Char) : Bool :=
  if OpensSection l then trim l == header else inside

theorem exists_entriesFrom_cons (inside : Bool) (l : List Char) :
    ∃ es, ∀ ls, entriesFrom inside (l :: ls) = es ++ entriesFrom (staysInside inside l) ls := by
  by_cases hl : OpensSection l
  · refine ⟨[], fun ls => ?_⟩
    rw [staysInside, if_pos hl]
    rw [OpensSection] at hl
    rw [entriesFrom, if_pos hl]
    rfl
  · refine ⟨if inside then (entryOn? l).toList else [], fun ls => ?_⟩
    rw [staysInside, if_neg hl]
    rw [OpensSection] at hl
    rw [entriesFrom, if_neg hl]
    cases inside <;> rfl

theorem entriesFrom_append (inside : Bool) (above below : List (List Char)) :
    entriesFrom inside (above ++ below) =
      entriesFrom inside above ++ entriesFrom (above.foldl staysInside inside) below :=
  scan_append (fun _ => rfl) exists_entriesFrom_cons inside above below

/-- Whether the first line that is not blank opens a section. -/
def BeginsSection (ls : List (List Char)) : Prop :=
  ∀ l, ls.find? (fun l => !decide (IsBlankRun l)) = some l → OpensSection l

instance : DecidablePred BeginsSection := fun ls =>
  Option.decidableForallMem (ls.find? fun l => !decide (IsBlankRun l))

theorem entriesFrom_blank {l : List Char} (h : IsBlankRun l) (inside : Bool)
    (ls : List (List Char)) : entriesFrom inside (l :: ls) = entriesFrom inside ls := by
  rw [entriesFrom, trim_of_isBlankRun h]
  cases inside <;> rfl

theorem entriesFrom_of_beginsSection (h : BeginsSection below) (inside : Bool) :
    entriesFrom inside below = entriesFrom false below := by
  induction below with
  | nil => rfl
  | cons l below ih =>
    rw [BeginsSection, List.find?_cons] at h
    by_cases hl : IsBlankRun l
    · rw [decide_eq_true hl] at h
      rw [entriesFrom_blank hl, entriesFrom_blank hl, ih h]
    · rw [decide_eq_false hl] at h
      have hopens : OpensSection l := h l rfl
      rw [OpensSection] at hopens
      rw [entriesFrom, entriesFrom, if_pos hopens, if_pos hopens]

theorem dependencies_joined (h : BeginsSection (lines b.toList)) :
    dependencies (a ++ "\n" ++ b) = (dependencies a).update (dependencies b) := by
  refine ofList_joined fun gap hgap => ?_
  have hempty : IsBlankRun [] := nofun
  have hskip : ∀ inside, entriesFrom inside (gap ++ lines b.toList) =
      entriesFrom inside (lines b.toList) := by
    rcases hgap with rfl | rfl
    · exact fun _ => rfl
    · exact fun inside => entriesFrom_blank hempty inside _
  rw [entriesFrom_append, hskip, entriesFrom_of_beginsSection h]

end CrateManifest

namespace ModuleList

/-- Whether lines leave a block open: one of them opens a block, and none below it closes one. -/
def LeavesOpen (ls : List (List Char)) : Prop :=
  ∃ above l below, ls = above ++ l :: below ∧ opening <+: trim l ∧ ∀ m ∈ below, trim m ≠ [')']

/-- Whether a reader is within a block below a line. -/
def staysInside (inside : Bool) (l : List Char) : Bool :=
  opening.isPrefixOf (trim l) || (inside && trim l != [')'])

theorem staysInside_of_isSkipped {l : List Char} (h : isSkipped (trim l) = true) (inside : Bool) :
    staysInside inside l = inside := by
  rw [isSkipped, Bool.or_eq_true, List.isEmpty_iff, List.isPrefixOf_iff_prefix] at h
  rw [staysInside]
  rcases h with hempty | ⟨r, hr⟩
  · rw [hempty]
    exact Bool.and_true inside
  · rw [← hr]
    exact Bool.and_true inside

/-- What one line gives, and how it leaves the reader. -/
theorem exists_requirementsFrom_cons (inside : Bool) (l : List Char) :
    ∃ ps, ∀ ls, requirementsFrom inside (l :: ls) =
      ps ++ requirementsFrom (staysInside inside l) ls := by
  by_cases hskip : isSkipped (trim l) = true
  · refine ⟨[], fun ls => ?_⟩
    rw [staysInside_of_isSkipped hskip, requirementsFrom, if_pos hskip]
    rfl
  by_cases hopen : opening.isPrefixOf (trim l) = true
  · refine ⟨[], fun ls => ?_⟩
    rw [staysInside, hopen, requirementsFrom, if_neg hskip, if_pos hopen]
    rfl
  have hstays : staysInside inside l = (inside && trim l != [')']) := by
    rw [staysInside, Bool.eq_false_iff.2 hopen, Bool.false_or]
  cases inside with
  | false =>
    refine ⟨if keyword.isPrefixOf (trim l) then (pair? ((words (trim l)).drop 1)).toList else [],
      fun ls => ?_⟩
    rw [hstays, requirementsFrom, if_neg hskip, if_neg hopen, if_neg Bool.false_ne_true]
    split <;> rfl
  | true =>
    by_cases hclose : trim l = [')']
    · refine ⟨[], fun ls => ?_⟩
      rw [hstays, requirementsFrom, if_neg hskip, if_neg hopen, if_pos rfl, if_pos hclose, hclose]
      rfl
    · refine ⟨(pair? (words (trim l))).toList, fun ls => ?_⟩
      rw [hstays, requirementsFrom, if_neg hskip, if_neg hopen, if_pos rfl, if_neg hclose,
        bne_iff_ne.2 hclose]
      rfl

theorem requirementsFrom_append (inside : Bool) (above below : List (List Char)) :
    requirementsFrom inside (above ++ below) =
      requirementsFrom inside above ++ requirementsFrom (above.foldl staysInside inside) below :=
  scan_append (fun _ => rfl) exists_requirementsFrom_cons inside above below

theorem leavesOpen_cons {l : List Char} {ls : List (List Char)} : LeavesOpen (l :: ls) ↔
    opening <+: trim l ∧ (∀ m ∈ ls, trim m ≠ [')']) ∨ LeavesOpen ls := by
  constructor
  · rintro ⟨above, m, below, hsplit, hopens, hbelow⟩
    cases above with
    | nil =>
      cases hsplit
      exact .inl ⟨hopens, hbelow⟩
    | cons _ above =>
      cases hsplit
      exact .inr ⟨above, m, below, rfl, hopens, hbelow⟩
  · rintro (⟨hopens, hbelow⟩ | ⟨above, m, below, rfl, hopens, hbelow⟩)
    · exact ⟨[], l, ls, rfl, hopens, hbelow⟩
    · exact ⟨l :: above, m, below, rfl, hopens, hbelow⟩

/-- A reader is within a block below lines iff they leave one open or close none that was. -/
theorem foldl_staysInside (inside : Bool) (ls : List (List Char)) :
    ls.foldl staysInside inside = true ↔
      LeavesOpen ls ∨ inside = true ∧ ∀ m ∈ ls, trim m ≠ [')'] := by
  induction ls generalizing inside with
  | nil => simp [LeavesOpen]
  | cons l ls ih =>
    have hstays : staysInside inside l = true ↔
        opening <+: trim l ∨ inside = true ∧ trim l ≠ [')'] := by
      rw [staysInside, Bool.or_eq_true, List.isPrefixOf_iff_prefix, Bool.and_eq_true, bne_iff_ne]
    rw [List.foldl_cons, ih, hstays, leavesOpen_cons, List.forall_mem_cons, or_and_right, and_assoc,
      or_left_comm, or_assoc]

theorem leavesOpen_iff {ls : List (List Char)} :
    LeavesOpen ls ↔ ls.foldl staysInside false = true := by
  simp [foldl_staysInside]

instance : DecidablePred LeavesOpen := fun _ => decidable_of_iff _ leavesOpen_iff.symm

theorem dependencies_joined (h : ¬ LeavesOpen (lines a.toList)) :
    dependencies (a ++ "\n" ++ b) = (dependencies a).update (dependencies b) := by
  refine ofList_joined fun gap hgap => ?_
  rw [leavesOpen_iff, Bool.not_eq_true] at h
  have hskip : requirementsFrom false (gap ++ lines b.toList) =
      requirementsFrom false (lines b.toList) := by
    rcases hgap with rfl | rfl
    · rfl
    · exact requirementsFrom_idle _ (.blank nofun)
  rw [requirementsFrom_append, h, hskip]

end ModuleList

namespace Manifest

/-- Whether a manifest can stand above another one: it is read line by line, and it leaves nothing
open that the other one does not end. -/
def CanPrecede : Ecosystem → List (List Char) → List (List Char) → Prop
  | .python, _, _ | .ruby, _, _ | .swift, _, _ => True
  | .rust, _, below => CrateManifest.BeginsSection below
  | .go, above, _ => ¬ ModuleList.LeavesOpen above
  | .node, _, _ | .php, _, _ => False

/-- **Two manifests, one below the other, hold what the first holds updated with what the second
holds**, and nothing else is read of them. -/
theorem read_joined {e : Ecosystem} (h : CanPrecede e (lines a.toList) (lines b.toList))
    (beside : String → Except FileError Bool) :
    ∃ u v, (read e beside a).outcome = .ok (.ofHabit e u) ∧
      (read e beside b).outcome = .ok (.ofHabit e v) ∧
      (read e beside (a ++ "\n" ++ b)).outcome = .ok (.ofHabit e (u.update v)) := by
  cases e with
  | python =>
    exact ⟨_, _, rfl, rfl, by rw [← RequirementList.dependencies_joined]; rfl⟩
  | ruby => exact ⟨_, _, rfl, rfl, by rw [← Declarations.dependencies_joined]; rfl⟩
  | swift => exact ⟨_, _, rfl, rfl, by rw [← Declarations.dependencies_joined]; rfl⟩
  | rust => exact ⟨_, _, rfl, rfl, by rw [← CrateManifest.dependencies_joined h]; rfl⟩
  | go => exact ⟨_, _, rfl, rfl, by rw [← ModuleList.dependencies_joined h]; rfl⟩
  | node | php => cases h

/-- A list whose block is closed, and which ends with a carriage return. -/
def closedList : String := "require (\n\ta v1\n\tb v1\n)\r"

/-- A list that requires one of the modules again. -/
def laterList : String := "\nrequire b v2"

/-- A directory with nothing else in it. -/
def nothingBeside : String → Except FileError Bool := fun _ => .ok false

/-- The line feed between the lists ends no block and no line, and the later version counts. -/
theorem read_joined_lists :
    CanPrecede .go (lines closedList.toList) (lines laterList.toList) ∧
    (read .go nothingBeside closedList).outcome =
      .ok (.ofHabit .go (Table.ofList [("a", "v1"), ("b", "v1")])) ∧
    (read .go nothingBeside (closedList ++ "\n" ++ laterList)).outcome =
      .ok (.ofHabit .go (Table.ofList [("a", "v1"), ("b", "v2")])) := by
  have hclosed : CanPrecede .go (lines closedList.toList) (lines laterList.toList) := by
    have hnot : ¬ ModuleList.LeavesOpen (lines closedList.toList) := by decide
    exact hnot
  obtain ⟨u, v, hu, hv, hjoined⟩ := read_joined hclosed nothingBeside
  have hfirst : u = Table.ofList [("a", "v1"), ("b", "v1")] := by
    cases hu
    decide
  have hsecond : v = Table.ofList [("b", "v2")] := by
    cases hv
    decide
  subst hfirst hsecond
  exact ⟨hclosed, hu, hjoined⟩

end Manifest

end Fingerprint
