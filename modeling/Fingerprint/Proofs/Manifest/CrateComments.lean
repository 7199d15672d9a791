/-
What a comment at the end of a line does to a crate manifest. Only whole lines
can be comments: behind the header of packages a comment makes another section
of it, whose lines do not count, and behind an entry it leaves the closing
quote of the version in place (`entryOn?_commented`). So the packages stay as
they are iff other lines settle them (`dependencies_commented`).
-/
import Fingerprint.Proofs.ChangedEntries
import Fingerprint.Proofs.Manifest.Joined
import Fingerprint.Proofs.Text.LineEdits
import Fingerprint.Proofs.Text.Trimmed

namespace Fingerprint.CrateManifest

open Text

variable {l : List Char} {name version : String} {v d : List Char}

/-- What is read as the version of an entry with a comment behind it: the version with the quote that
ends it, and the blanks that follow up to the first space. -/
def commentedVersion (version blanks : List Char) : List Char :=
  (if version = [] then [] else version ++ ['"']) ++ blanks.takeWhile (· != ' ')

theorem unquote_commented (hv : '"' ∉ v) (hd : IsBlankRun d) (u : List Char) :
    ∃ u', unquote (enclosed v ++ (d ++ ' ' :: '#' :: u)) =
      (if v = [] then [] else v ++ ['"']) ++ (d ++ ' ' :: '#' :: u') := by
  have hspaced : (d ++ [' ']).dropWhile (· == '"') = d ++ [' '] := by
    cases d with
    | nil => rfl
    | cons c d =>
      have hc : c ≠ '"' := by
        rintro rfl
        exact absurd (hd '"' (by simp)) (by decide)
      simp [hc]
  have hdrop : (enclosed v ++ (d ++ [' '])).dropWhile (· == '"') =
      (if v = [] then [] else v ++ ['"']) ++ (d ++ [' ']) := by
    cases v with
    | nil => simpa [enclosed] using hspaced
    | cons e v =>
      have he : e ≠ '"' := by
        rintro rfl
        exact hv (by simp)
      simp [enclosed, he]
  obtain ⟨u', hu'⟩ := exists_strip_append (p := (· == '"')) (c := '#') rfl
    (enclosed v ++ (d ++ [' '])) u
  refine ⟨u', ?_⟩
  rw [hdrop] at hu'
  simpa [unquote] using hu'

theorem enclosed_ne_nil (s : List Char) : enclosed s ≠ [] := List.cons_ne_nil _ _

/-- An entry gives its name and what is left of all that follows the equals sign. -/
theorem entryOn?_keyed {a b key value : List Char} (ha : IsBlankRun a) (hb : IsBlankRun b)
    (hname : IsEntryName name.toList) (hkey : IsKey name.toList key) :
    entryOn? (a ++ (key ++ b ++ '=' :: value)) =
      some (name, String.ofList ((unquote (trim value)).takeWhile (· != ' '))) := by
  have hne := hkey.ne_nil hname
  have hsign : IsTight ['='] := by decide
  have htight := hkey.tight.append hne hsign (List.cons_ne_nil _ _) b
  have htrim : trim (a ++ (key ++ b ++ '=' :: value)) = key ++ b ++ '=' :: trimEnd value := by
    have hline := trim_append (by simp) htight value
    rw [trim_blanks_append ha]
    simpa using hline
  have hequals : '=' ∉ key ++ b := by
    rw [List.mem_append, not_or]
    exact ⟨hkey.no_equals hname, fun hm => absurd (hb _ hm) (by decide)⟩
  have hcomment : (key ++ b).head? ≠ some '#' := by
    rw [List.head?_append_of_ne_nil _ hne]
    exact hkey.not_comment
  have hkeyTrim : trim (key ++ b) = key := trim_padded (a := []) (by decide) hkey.tight hb
  have hnameEq := hkey.unquote_eq hname
  have hnamed : unquote (trim (key ++ b)) ≠ [] := by
    rw [hkeyTrim, hnameEq]
    exact hname.ne_nil
  rw [entryOn?, htrim, entryOf?_assignment hequals hcomment _ hnamed, hkeyTrim, hnameEq,
    trim_trimEnd, String.ofList_toList]

/-- **Behind an entry a comment spoils the version**: the quote that ends it is no longer at the end
of the line, and stays. -/
theorem entryOn?_commented (h : IsEntry l (name, version)) (u : List Char) :
    entryOn? (l ++ ' ' :: '#' :: u) =
      some (name, String.ofList (commentedVersion version.toList (blanksBehind l))) := by
  obtain @⟨name, version, a, b, c, d, key, ha, hb, hc, hd, hname, hkey, hversion⟩ := h
  have hlast : ∀ x, (enclosed version.toList).getLast? = some x → isBlank x = false :=
    (isTight_enclosed version.toList).last
  have hblanks : blanksBehind (a ++ (key ++ (b ++ '=' :: c) ++ enclosed version.toList) ++ d) = d := by
    refine blanksBehind_append (fun x hx => hlast x ?_) hd
    rwa [← List.append_assoc, List.getLast?_append_of_ne_nil _ (enclosed_ne_nil _)] at hx
  have hline : a ++ (key ++ (b ++ '=' :: c) ++ enclosed version.toList) ++ d ++ ' ' :: '#' :: u =
      a ++ (key ++ b ++ '=' :: (c ++ (enclosed version.toList ++ (d ++ ' ' :: '#' :: u)))) := by
    simp
  have hvalue : trim (c ++ (enclosed version.toList ++ (d ++ ' ' :: '#' :: u))) =
      enclosed version.toList ++ (d ++ ' ' :: '#' :: trimEnd u) := by
    have hmark := trimEnd_append_cons (c := '#') (by decide) (d ++ [' ']) u
    rw [trim_blanks_append hc, trim_append (enclosed_ne_nil _) (isTight_enclosed _)]
    simpa using hmark
  obtain ⟨u', hunquote⟩ := unquote_commented hversion.no_quote hd (trimEnd u)
  have hspace : ∀ x ∈ (if version.toList = [] then [] else version.toList ++ ['"']),
      (x != ' ') = true := by
    intro x hx
    rw [bne_iff_ne]
    rintro rfl
    split at hx
    next => cases hx
    next =>
      rcases List.mem_append.1 hx with hx | hx
      · exact hversion.no_space hx
      · exact absurd (List.mem_singleton.1 hx) (by decide)
  have hcut : (d ++ ' ' :: '#' :: u').takeWhile (· != ' ') = d.takeWhile (· != ' ') := by
    rw [List.takeWhile_append]
    split
    next hlength => simp [(List.takeWhile_prefix _).eq_of_length hlength]
    next => rfl
  rw [hline, entryOn?_keyed ha hb hname hkey, hvalue, hunquote, hblanks, commentedVersion,
    List.takeWhile_append_of_pos hspace, hcut]

theorem not_opensSection_of_isEntry {p : String × String} (h : IsEntry l p) (more : List Char) :
    ¬ OpensSection (l ++ more) := by
  obtain @⟨name, version, a, b, c, d, key, ha, -, -, -, hname, hkey, -⟩ := h
  have hne := hkey.ne_nil hname
  have hhead : key.head? ≠ some '[' := by
    cases hkey with
    | bare _ hsection => exact hsection
    | quoted => simp [enclosed]
  rw [OpensSection, List.append_assoc, List.append_assoc, List.append_assoc, trim_blanks_append ha,
    List.append_assoc, trim_append hne hkey.tight, List.head?_append_of_ne_nil _ hne]
  exact hhead

theorem entriesFrom_entry {p : String × String} (hplain : ¬ OpensSection l)
    (hentry : entryOn? l = some p) (below : List (List Char)) :
    entriesFrom true (l :: below) = p :: entriesFrom true below := by
  have hone : ∀ m ∈ [l], ¬ OpensSection m := List.forall_mem_singleton.2 hplain
  have hfirst := entriesFrom_plain hone true below
  rw [if_pos rfl, List.filterMap_cons_some hentry] at hfirst
  exact hfirst

theorem commentedVersion_eq_iff :
    commentedVersion v d = v ↔ v = [] ∧ ∀ c, d.head? = some c → c = ' ' := by
  unfold commentedVersion
  by_cases hv : v = []
  · subst hv
    cases d with
    | nil => simp
    | cons c d => simp [List.takeWhile_cons]
  · rw [if_neg hv]
    refine ⟨fun h => ?_, fun h => absurd h.1 hv⟩
    have hlength := congrArg List.length h
    simp at hlength

/-- The entries of lines up to the next one that opens a section. -/
def sectionEntries (ls : List (List Char)) : List (String × String) :=
  (ls.takeWhile fun l => ¬ OpensSection l).filterMap entryOn?

/-- The entries of the sections that come after these lines. -/
def laterEntries (ls : List (List Char)) : List (String × String) :=
  entriesFrom false (ls.dropWhile fun l => ¬ OpensSection l)

theorem entriesFrom_eq (inside : Bool) (ls : List (List Char)) :
    entriesFrom inside ls = (if inside then sectionEntries ls else []) ++ laterEntries ls := by
  have hplain : ∀ l ∈ ls.takeWhile fun l => ¬ OpensSection l, ¬ OpensSection l := fun l hl => by
    simpa using List.mem_takeWhile_imp hl
  have hrest : entriesFrom inside (ls.dropWhile fun l => ¬ OpensSection l) = laterEntries ls := by
    rw [laterEntries]
    cases hdrop : ls.dropWhile fun l => ¬ OpensSection l with
    | nil => rfl
    | cons m rest =>
      have hopens : OpensSection m := by simpa using (dropWhile_eq_cons_iff.1 hdrop).1
      rw [OpensSection] at hopens
      rw [entriesFrom, entriesFrom, if_pos hopens, if_pos hopens]
  have hsplit := entriesFrom_plain hplain inside (ls.dropWhile fun l => ¬ OpensSection l)
  rw [List.takeWhile_append_dropWhile, hrest] at hsplit
  exact hsplit

/-- A header of packages with a comment behind it opens a section, but not one of packages. -/
theorem entriesFrom_commentedHeader (h : trim l = header) (u : List Char) (inside : Bool)
    (below : List (List Char)) :
    entriesFrom inside ((l ++ ' ' :: '#' :: u) :: below) = laterEntries below := by
  obtain ⟨a, d, ha, -, hl⟩ := exists_blanks_trim l
  rw [h] at hl
  have htrim : trim (l ++ ' ' :: '#' :: u) = header ++ (d ++ ' ' :: '#' :: trimEnd u) := by
    have hline : l ++ ' ' :: '#' :: u = a ++ (header ++ (d ++ ' ' :: '#' :: u)) := by simp [hl]
    have hmark := trimEnd_append_cons (c := '#') (by decide) (d ++ [' ']) u
    rw [hline, trim_blanks_append ha, trim_append (by decide) (by decide)]
    simpa using hmark
  have hother : (header ++ (d ++ ' ' :: '#' :: trimEnd u) == header) = false := by
    simp
  have hopens : (header ++ (d ++ ' ' :: '#' :: trimEnd u)).head? = some '[' := rfl
  rw [entriesFrom, htrim, if_pos hopens, hother, entriesFrom_eq]
  rfl

theorem entriesFrom_header (h : trim l = header) (inside : Bool) (below : List (List Char)) :
    entriesFrom inside (l :: below) = sectionEntries below ++ laterEntries below := by
  have hopens : (trim l).head? = some '[' := by
    rw [h]
    rfl
  rw [entriesFrom, if_pos hopens, h, beq_self_eq_true, entriesFrom_eq, if_pos rfl]

/-- Whether lines end within a section of packages: one of them is its header, and none below it
opens another section. -/
def LeavesSection (ls : List (List Char)) : Prop :=
  ∃ above l below, ls = above ++ l :: below ∧ trim l = header ∧ ∀ m ∈ below, ¬ OpensSection m

theorem foldl_staysInside_of_leavesSection {ls : List (List Char)} (h : LeavesSection ls) :
    ls.foldl staysInside false = true := by
  obtain ⟨above, l, below, rfl, hl, hbelow⟩ := h
  have hopens : OpensSection l := by
    rw [OpensSection, hl]
    rfl
  have hstays : ∀ ms : List (List Char), (∀ m ∈ ms, ¬ OpensSection m) →
      ms.foldl staysInside true = true := by
    intro ms hms
    induction ms with
    | nil => rfl
    | cons m ms ih =>
      rw [List.forall_mem_cons] at hms
      rw [List.foldl_cons, staysInside, if_neg hms.1, ih hms.2]
  rw [List.foldl_append, List.foldl_cons, staysInside, if_pos hopens, hl, beq_self_eq_true]
  exact hstays below hbelow

/-- **A comment on a line of packages is no comment.** Behind a header of packages it takes the
entries of this section away, and behind an entry it changes the version. So the packages stay the
same iff each that is concerned is settled by another line. -/
theorem dependencies_commented {text comment : String} {above below : List (List Char)}
    (h : lines text.toList = above ++ l :: below) (hcomment : IsLine comment.toList) :
    (trim l = header →
      dependencies text =
        Table.ofList (entriesFrom false above ++ (sectionEntries below ++ laterEntries below)) ∧
      dependencies (commentLine "#" comment above.length text) =
        Table.ofList (entriesFrom false above ++ laterEntries below) ∧
      (Table.Same (dependencies (commentLine "#" comment above.length text)) (dependencies text) ↔
        ∀ name ∈ Entries.keys (sectionEntries below), name ∈ Entries.keys (laterEntries below) ∨
          Entries.last? name (entriesFrom false above) =
            Entries.last? name (sectionEntries below))) ∧
    ∀ name version, LeavesSection above → IsEntry l (name, version) →
      dependencies text =
        Table.ofList (entriesFrom false above ++ (name, version) :: entriesFrom true below) ∧
      dependencies (commentLine "#" comment above.length text) =
        Table.ofList (entriesFrom false above ++
          (name, String.ofList (commentedVersion version.toList (blanksBehind l))) ::
            entriesFrom true below) ∧
      (Table.Same (dependencies (commentLine "#" comment above.length text)) (dependencies text) ↔
        name ∈ Entries.keys (entriesFrom true below) ∨
          version = "" ∧ ∀ c, (blanksBehind l).head? = some c → c = ' ') := by
  have hmark : IsLine "#".toList := by decide
  have hcommented := lines_commentLine h hmark hcomment
  have hchar : "#".toList = ['#'] := rfl
  rw [hchar] at hcommented
  refine ⟨fun hl => ?_, fun name version hinside hentry => ?_⟩
  · have hbefore : dependencies text =
        Table.ofList (entriesFrom false above ++ (sectionEntries below ++ laterEntries below)) := by
      rw [dependencies, h, entriesFrom_append, entriesFrom_header hl]
    have hafter : dependencies (commentLine "#" comment above.length text) =
        Table.ofList (entriesFrom false above ++ laterEntries below) := by
      rw [dependencies, hcommented, entriesFrom_append, List.singleton_append,
        entriesFrom_commentedHeader hl]
    exact ⟨hbefore, hafter, by rw [hbefore, hafter]; exact Table.same_without_iff⟩
  · have hstate := foldl_staysInside_of_leavesSection hinside
    have hbefore : dependencies text =
        Table.ofList (entriesFrom false above ++ (name, version) :: entriesFrom true below) := by
      have hplain := not_opensSection_of_isEntry hentry []
      rw [List.append_nil] at hplain
      rw [dependencies, h, entriesFrom_append, hstate,
        entriesFrom_entry hplain (entryOn?_of_isEntry hentry)]
    have hafter : dependencies (commentLine "#" comment above.length text) =
        Table.ofList (entriesFrom false above ++
          (name, String.ofList (commentedVersion version.toList (blanksBehind l))) ::
            entriesFrom true below) := by
      rw [dependencies, hcommented, entriesFrom_append, hstate, List.singleton_append,
        entriesFrom_entry (not_opensSection_of_isEntry hentry _) (entryOn?_commented hentry _)]
    refine ⟨hbefore, hafter, ?_⟩
    rw [hbefore, hafter, Table.same_value_iff, ← String.toList_inj, String.toList_ofList,
      commentedVersion_eq_iff, String.toList_eq_nil_iff]

/-- The lines of a manifest that asks for a package in two sections. -/
def settledLines : List (List Char) :=
  [header, "serde = \"1.0\"".toList, header, "serde = \"1.1\"".toList]

/-- That manifest as a text. -/
def settledText : String := String.ofList (endLines settledLines)

/-- Behind the first header a comment changes nothing, since the second section settles the package;
behind the last entry it changes the version. -/
theorem dependencies_commented_settled :
    lines settledText.toList = settledLines ∧
    Table.Same (dependencies (commentLine "#" "runtime" 0 settledText)) (dependencies settledText) ∧
    (dependencies (commentLine "#" "runtime" 3 settledText)).get? "serde" = some "1.1\"" ∧
    ¬ Table.Same (dependencies (commentLine "#" "runtime" 3 settledText))
      (dependencies settledText) := by
  have hlines : lines settledText.toList = settledLines := by
    rw [settledText, String.toList_ofList, lines_endLines (by decide +kernel)]
  have hcomment : IsLine "runtime".toList := by decide
  have hnone : IsBlankRun [] := by decide
  have hblank : IsBlankRun [' '] := by decide
  have hentry : IsEntry "serde = \"1.1\"".toList ("serde", "1.1") :=
    .intro "serde" "1.1" (a := []) (b := [' ']) (c := [' ']) (d := []) hnone hblank hblank hnone
      ⟨by decide, by decide, by decide⟩ (.bare (by decide) (by decide) (by decide))
      ⟨by decide, by decide⟩
  have hinside : LeavesSection (settledLines.take 3) :=
    ⟨settledLines.take 2, header, [], rfl, by decide, (by decide)⟩
  have hbegin : lines settledText.toList = [] ++ header :: settledLines.drop 1 := hlines
  have hend : lines settledText.toList = settledLines.take 3 ++ ["serde = \"1.1\"".toList] := hlines
  have hfirst := (dependencies_commented hbegin hcomment).1 (by decide)
  have hlast := (dependencies_commented hend hcomment).2 "serde" "1.1" hinside hentry
  refine ⟨hlines, hfirst.2.2.2 (by decide +kernel), ?_, fun hsame => ?_⟩
  · have hread : dependencies (commentLine "#" "runtime" 3 settledText) = _ := hlast.2.1
    rw [hread]
    decide +kernel
  · rcases hlast.2.2.1 hsame with hlater | ⟨hempty, -⟩
    · cases hlater
    · exact absurd hempty (by decide)

/-- A manifest with one package. -/
def pinnedText : String := "[dependencies]\nserde = \"1.0\"\n"

/-- A comment on either line of a manifest with one package changes what it holds. -/
theorem dependencies_pinnedText_commented :
    lines pinnedText.toList = [header, "serde = \"1.0\"".toList] ∧
    IsEntry "serde = \"1.0\"".toList ("serde", "1.0") ∧ IsLine "runtime".toList ∧
    ¬ Table.Same (dependencies (commentLine "#" "runtime" 0 pinnedText))
      (dependencies pinnedText) ∧
    ¬ Table.Same (dependencies (commentLine "#" "runtime" 1 pinnedText))
      (dependencies pinnedText) := by
  refine ⟨by decide +kernel, ?_, by decide, by decide +kernel, by decide +kernel⟩
  exact .intro "serde" "1.0" (a := []) (b := [' ']) (c := [' ']) (d := []) (by decide) (by decide)
    (by decide) (by decide) ⟨by decide, by decide, by decide⟩
    (.bare (by decide) (by decide) (by decide)) ⟨by decide, by decide⟩

end Fingerprint.CrateManifest
