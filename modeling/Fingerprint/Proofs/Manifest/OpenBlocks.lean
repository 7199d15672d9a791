/-
Where a block of a module list ends. The only line that ends it is a bracket
and nothing else, and until that line all others are read as its requirements
(`requirementsFrom_open`). So a comment behind the bracket, or both brackets on
one line, leave the block open, and what comes of the lines up to the next
bracket alone decides on the packages (`dependencies_openBlock`).
-/
import Fingerprint.Proofs.ChangedEntries
import Fingerprint.Proofs.Manifest.Joined
import Fingerprint.Proofs.Text.LineEdits
import Fingerprint.Proofs.Text.Trimmed

namespace Fingerprint.ModuleList

open Text

variable {l : List Char} {above below ls : List (List Char)} {text comment : String}

/-- Whether a line ends a block. -/
def Closes (l : List Char) : Prop := trim l = [')']

instance : DecidablePred Closes := fun l => inferInstanceAs (Decidable (trim l = [')']))

/-- What a line that ends no block gives within one. -/
def memberOn? (l : List Char) : Option (String × String) :=
  if isSkipped (trim l) || opening.isPrefixOf (trim l) then none else pair? (words (trim l))

/-- The lines before the first that ends a block. -/
def beforeClosing (ls : List (List Char)) : List (List Char) := ls.takeWhile fun l => ¬ Closes l

/-- The lines behind the first that ends a block. -/
def behindClosing (ls : List (List Char)) : List (List Char) :=
  (ls.dropWhile fun l => ¬ Closes l).tail

theorem requirementsFrom_closes (h : Closes l) (inside : Bool) (ls : List (List Char)) :
    requirementsFrom inside (l :: ls) = requirementsFrom false ls := by
  rw [Closes] at h
  rw [requirementsFrom, h]
  cases inside <;> rfl

theorem requirementsFrom_member_line (h : ¬ Closes l) (ls : List (List Char)) :
    requirementsFrom true (l :: ls) = (memberOn? l).toList ++ requirementsFrom true ls := by
  rw [Closes] at h
  rw [requirementsFrom, memberOn?]
  cases hskip : isSkipped (trim l) with
  | true => rfl
  | false =>
    cases hopen : opening.isPrefixOf (trim l) with
    | true => rfl
    | false => simp [h]

/-- **An open block takes all lines up to the next bracket.** -/
theorem requirementsFrom_open (ls : List (List Char)) : requirementsFrom true ls =
    (beforeClosing ls).filterMap memberOn? ++ requirementsFrom false (behindClosing ls) := by
  induction ls with
  | nil => rfl
  | cons l ls ih =>
    by_cases hl : Closes l
    · rw [requirementsFrom_closes hl, beforeClosing, behindClosing]
      simp [hl]
    · rw [requirementsFrom_member_line hl, ih]
      cases hm : memberOn? l with
      | none => simp [beforeClosing, behindClosing, hl, hm]
      | some p => simp [beforeClosing, behindClosing, hl, hm]

/-- Behind the next bracket a list goes on as if it had been closed all the while. -/
theorem requirementsFrom_beforeClosing (ls : List (List Char)) : requirementsFrom false ls =
    requirementsFrom false (beforeClosing ls) ++ requirementsFrom false (behindClosing ls) := by
  have hsplit : beforeClosing ls ++ ls.dropWhile (fun l => ¬ Closes l) = ls :=
    List.takeWhile_append_dropWhile
  rw [behindClosing]
  cases hdrop : ls.dropWhile fun l => ¬ Closes l with
  | nil =>
    rw [hdrop, List.append_nil] at hsplit
    rw [hsplit]
    exact (List.append_nil _).symm
  | cons l rest =>
    have hl : Closes l := by simpa using (dropWhile_eq_cons_iff.1 hdrop).1
    rw [hdrop] at hsplit
    conv_lhs => rw [← hsplit]
    rw [requirementsFrom_append, requirementsFrom_closes hl, List.tail_cons]

/-- What a comment behind a bracket makes of it: a requirement. -/
def bracketPair : String × String := (")", "//")

/-- **A bracket with a comment behind it does not end a block**, and is a requirement of it. -/
theorem requirementsFrom_commentedClosing (h : Closes l) (u : List Char) (ls : List (List Char)) :
    requirementsFrom true ((l ++ ' ' :: (commentMark ++ ' ' :: u)) :: ls) =
      bracketPair :: requirementsFrom true ls := by
  obtain ⟨a, d, ha, hd, hl⟩ := exists_blanks_trim l
  rw [Closes] at h
  rw [h] at hl
  have hspace : IsBlankRun [' '] := by decide
  have hspaced : IsBlankRun (d ++ [' ']) := List.forall_mem_append.2 ⟨hd, hspace⟩
  have hend : BeginsBlank (trimEnd (' ' :: u)) := (hspace.beginsBlank (by simp) u).trimEnd
  have htrim : trim (l ++ ' ' :: (commentMark ++ ' ' :: u)) =
      [')'] ++ (d ++ [' '] ++ (commentMark ++ trimEnd (' ' :: u))) := by
    have hline : l ++ ' ' :: (commentMark ++ ' ' :: u) =
        a ++ ([')'] ++ (d ++ [' ', '/', '/'] ++ ' ' :: u)) := by simp [hl, commentMark]
    have hmark := trimEnd_append_cons (c := '/') (by decide) (d ++ [' ', '/']) (' ' :: u)
    rw [hline, trim_blanks_append ha, trim_append (by decide) (by decide)]
    simpa [commentMark] using hmark
  have hwords : words (trim (l ++ ' ' :: (commentMark ++ ' ' :: u))) =
      [')'] :: commentMark :: words (trimEnd (' ' :: u)) := by
    rw [htrim, words_append (by decide) (hspaced.beginsBlank (by simp) _),
      words_blanks_append hspaced, words_append isWord_commentMark hend]
  have hopen : ¬ Closes (l ++ ' ' :: (commentMark ++ ' ' :: u)) := by
    rw [Closes, htrim]
    simp
  have hmember : memberOn? (l ++ ' ' :: (commentMark ++ ' ' :: u)) = some bracketPair := by
    rw [memberOn?, hwords, htrim]
    rfl
  rw [requirementsFrom_member_line hopen, hmember]
  rfl

theorem requirementsFrom_bothBrackets (inside : Bool) (ls : List (List Char)) :
    requirementsFrom inside ("require ()".toList :: ls) = requirementsFrom true ls := rfl

/-- **A block ends at a bracket that stands alone.** With a comment behind that bracket, and below a
line with both brackets, all lines up to the next bracket that stands alone are read as requirements
of a block, and in the first case the bracket too. So the list holds the same iff this makes no
difference under a path that no later line settles. -/
theorem dependencies_openBlock (text : String) :
    (∀ above l below comment, lines text.toList = above ++ l :: below → LeavesOpen above →
      Closes l → IsLine comment.toList →
      dependencies text = Table.ofList (requirementsFrom false above ++
        (requirementsFrom false (beforeClosing below) ++
          requirementsFrom false (behindClosing below))) ∧
      dependencies (commentLine "//" comment above.length text) =
        Table.ofList (requirementsFrom false above ++
          (bracketPair :: (beforeClosing below).filterMap memberOn? ++
            requirementsFrom false (behindClosing below))) ∧
      ")" ∈ (dependencies (commentLine "//" comment above.length text)).keys ∧
      (Table.Same (dependencies (commentLine "//" comment above.length text)) (dependencies text) ↔
        ∀ path, path ∉ Entries.keys (requirementsFrom false (behindClosing below)) →
          (Entries.last? path (bracketPair :: (beforeClosing below).filterMap memberOn?)).or
              (Entries.last? path (requirementsFrom false above)) =
            (Entries.last? path (requirementsFrom false (beforeClosing below))).or
              (Entries.last? path (requirementsFrom false above)))) ∧
    ∀ above below, lines text.toList = above ++ below → ¬ LeavesOpen above →
      dependencies text = Table.ofList (requirementsFrom false above ++
        (requirementsFrom false (beforeClosing below) ++
          requirementsFrom false (behindClosing below))) ∧
      dependencies (addLine "require ()" above.length text) =
        Table.ofList (requirementsFrom false above ++ ((beforeClosing below).filterMap memberOn? ++
          requirementsFrom false (behindClosing below))) ∧
      (Table.Same (dependencies (addLine "require ()" above.length text)) (dependencies text) ↔
        ∀ path, path ∉ Entries.keys (requirementsFrom false (behindClosing below)) →
          (Entries.last? path ((beforeClosing below).filterMap memberOn?)).or
              (Entries.last? path (requirementsFrom false above)) =
            (Entries.last? path (requirementsFrom false (beforeClosing below))).or
              (Entries.last? path (requirementsFrom false above))) := by
  refine ⟨fun above l below comment h hopen hl hcomment => ?_, fun above below h hclosed => ?_⟩
  · have hslashes : IsLine "//".toList := by decide
    have hcommented := lines_commentLine h hslashes hcomment
    rw [leavesOpen_iff] at hopen
    have hbefore : dependencies text = Table.ofList (requirementsFrom false above ++
        (requirementsFrom false (beforeClosing below) ++
          requirementsFrom false (behindClosing below))) := by
      rw [dependencies, h, requirementsFrom_append, requirementsFrom_closes hl,
        requirementsFrom_beforeClosing below]
    have hafter : dependencies (commentLine "//" comment above.length text) =
        Table.ofList (requirementsFrom false above ++
          (bracketPair :: (beforeClosing below).filterMap memberOn? ++
            requirementsFrom false (behindClosing below))) := by
      have hmark : "//".toList = commentMark := rfl
      rw [dependencies, hcommented, requirementsFrom_append, hopen, hmark,
        requirementsFrom_commentedClosing hl, requirementsFrom_open, List.cons_append]
    refine ⟨hbefore, hafter, ?_, ?_⟩
    · rw [hafter, Table.mem_keys_ofList]
      simp [bracketPair]
    · rw [hbefore, hafter, Table.same_changed_iff]
  · have hempty : IsLine "require ()".toList := by decide
    have hadded := lines_addLine h hempty (by decide)
    rw [leavesOpen_iff, Bool.not_eq_true] at hclosed
    have hbefore : dependencies text = Table.ofList (requirementsFrom false above ++
        (requirementsFrom false (beforeClosing below) ++
          requirementsFrom false (behindClosing below))) := by
      rw [dependencies, h, requirementsFrom_append, hclosed, requirementsFrom_beforeClosing below]
    have hafter : dependencies (addLine "require ()" above.length text) =
        Table.ofList (requirementsFrom false above ++ ((beforeClosing below).filterMap memberOn? ++
          requirementsFrom false (behindClosing below))) := by
      rw [dependencies, hadded, requirementsFrom_append, requirementsFrom_bothBrackets,
        requirementsFrom_open]
    exact ⟨hbefore, hafter, by rw [hbefore, hafter, Table.same_changed_iff]⟩

/-- The lines of a list with a block, a directive of another kind and a single requirement. -/
def directiveLines : List (List Char) := [
  "require (".toList, "\ta v1".toList, " )".toList, "go 1.21".toList, "require b v2".toList]

/-- That list as a text. -/
def directiveText : String := String.ofList (endLines directiveLines)

/-- With a comment behind its bracket the block takes the directive below it. An empty block on one
line takes it as well, except where the next bracket comes first or nothing follows. -/
theorem dependencies_openBlock_directives :
    lines directiveText.toList = directiveLines ∧
    dependencies directiveText = Table.ofList [("a", "v1"), ("b", "v2")] ∧
    ")" ∈ (dependencies (commentLine "//" "direct" 2 directiveText)).keys ∧
    (dependencies (commentLine "//" "direct" 2 directiveText)).get? "go" = some "1.21" ∧
    ¬ Table.Same (dependencies (commentLine "//" "direct" 2 directiveText))
      (dependencies directiveText) ∧
    Table.Same (dependencies (addLine "require ()" 0 directiveText)) (dependencies directiveText) ∧
    (dependencies (addLine "require ()" 3 directiveText)).get? "require" = some "b" ∧
    ¬ Table.Same (dependencies (addLine "require ()" 3 directiveText))
      (dependencies directiveText) ∧
    Table.Same (dependencies (addLine "require ()" 5 directiveText))
      (dependencies directiveText) := by
  have hlines : lines directiveText.toList = directiveLines := by
    rw [directiveText, String.toList_ofList, lines_endLines (by decide +kernel)]
  obtain ⟨hcomment, hempty⟩ := dependencies_openBlock directiveText
  obtain ⟨hplain, hcommented, hbracket, -⟩ := hcomment (directiveLines.take 2) " )".toList
    (directiveLines.drop 3) "direct" hlines (by decide) (by decide) (by decide)
  obtain ⟨-, -, hfirst⟩ := hempty [] directiveLines hlines (by decide)
  obtain ⟨-, hadded, -⟩ := hempty (directiveLines.take 3) (directiveLines.drop 3) hlines (by decide)
  obtain ⟨-, -, hlast⟩ := hempty directiveLines [] (by simpa using hlines) (by decide)
  have hholds : dependencies directiveText = Table.ofList [("a", "v1"), ("b", "v2")] := by
    rw [hplain]
    decide +kernel
  have hgo : (dependencies (commentLine "//" "direct" 2 directiveText)).get? "go" =
      some "1.21" := by
    have hread : dependencies (commentLine "//" "direct" 2 directiveText) = _ := hcommented
    rw [hread]
    decide +kernel
  have hrequire : (dependencies (addLine "require ()" 3 directiveText)).get? "require" =
      some "b" := by
    have hread : dependencies (addLine "require ()" 3 directiveText) = _ := hadded
    rw [hread]
    decide +kernel
  refine ⟨hlines, hholds, hbracket, hgo, fun hsame => ?_, hfirst.2 ?_, hrequire, fun hsame => ?_,
    hlast.2 ?_⟩
  · have hkept := hsame "go"
    rw [hgo, hholds] at hkept
    exact absurd hkept (by decide)
  · have hmembers : (beforeClosing directiveLines).filterMap memberOn? =
        requirementsFrom false (beforeClosing directiveLines) := by decide +kernel
    exact fun path _ => by rw [hmembers]
  · have hkept := hsame "require"
    rw [hrequire, hholds] at hkept
    exact absurd hkept (by decide)
  · exact fun path _ => rfl

/-- A list of one block and a directive. -/
def tidyText : String := "require (\n\ta v1\n)\ngo 1.21\n"

/-- A comment behind the bracket of a block, or an empty block on one line, changes what a list of
one block holds. -/
theorem dependencies_tidyText_openBlock :
    Requires (lines tidyText.toList) [("a", "v1")] ∧
    lines tidyText.toList =
      ["require (".toList, "\ta v1".toList] ++ ")".toList :: ["go 1.21".toList] ∧
    IsClosing ")".toList ∧ IsLine "direct".toList ∧
    ¬ Table.Same (dependencies (commentLine "//" "direct" 2 tidyText)) (dependencies tidyText) ∧
    ¬ Table.Same (dependencies (addLine "require ()" 3 tidyText)) (dependencies tidyText) := by
  have hlines : lines tidyText.toList =
      ["require (".toList, "\ta v1".toList] ++ ")".toList :: ["go 1.21".toList] := by decide +kernel
  have hopen : IsOpening "require (".toList := .plain (a := []) (b := []) (by decide) (by decide)
  have hpair : IsRequirement "a".toList "v1".toList :=
    ⟨by decide, by decide, by decide, by decide, by decide⟩
  have hmember : IsMember "\ta v1".toList ("a", "v1") :=
    .intro (a := ['\t']) (by decide)
      (.intro (b := [' ']) (r := []) hpair (by decide) (by decide) (by decide))
  have hclose : IsClosing ")".toList := .intro (a := []) (b := []) (by decide) (by decide)
  have hlist : Requires (lines tidyText.toList) [("a", "v1")] := by
    rw [hlines]
    exact .block hopen (.declares hmember .nil) hclose (.other (by decide) .nil)
  exact ⟨hlist, hlines, hclose, by decide, by decide +kernel, by decide +kernel⟩

end Fingerprint.ModuleList
