/-
What a crate manifest declares. Its lines are those before the first section
and sections, each a line that opens it and lines that open no other
(`exists_document`). Only the lines of the sections of packages count
(`entriesFrom_document`); where each of these is blank, a comment or an entry
`name = "version"`, the manifest holds these entries and nothing else, the last
one of a name winning (`dependencies_of_document`).
-/
import Fingerprint.Manifest.CrateManifest
import Fingerprint.Proofs.Entries
import Fingerprint.Proofs.Manifest.Lines
import Fingerprint.Proofs.Text.Pieces

namespace Fingerprint.CrateManifest

open Text

/-- Whether a line opens a section. -/
def OpensSection (line : List Char) : Prop := (trim line).head? = some '['

instance : DecidablePred OpensSection := fun line =>
  inferInstanceAs (Decidable ((trim line).head? = some '['))

/-- A section: the line that opens it, and those below it. -/
structure Section where
  header : List Char
  body : List (List Char)
  opens : OpensSection header
  plain : ∀ l ∈ body, ¬ OpensSection l

namespace Section

/-- The lines of a section. -/
def lines (s : Section) : List (List Char) := s.header :: s.body

/-- Whether a section is one of packages. -/
def isOfPackages (s : Section) : Bool := trim s.header == CrateManifest.header

end Section

/-- A manifest as sections, with the lines before them. -/
structure Document where
  preamble : List (List Char)
  sections : List Section
  plain : ∀ l ∈ preamble, ¬ OpensSection l

namespace Document

/-- The lines of a manifest. -/
def lines (d : Document) : List (List Char) := d.preamble ++ d.sections.flatMap Section.lines

/-- The lines below the headers of the sections of packages. -/
def packageLines (d : Document) : List (List Char) :=
  (d.sections.filter Section.isOfPackages).flatMap Section.body

end Document

theorem exists_document (ls : List (List Char)) : ∃ d : Document, ls = d.lines := by
  induction ls with
  | nil => exact ⟨⟨[], [], nofun⟩, rfl⟩
  | cons l ls ih =>
    obtain ⟨d, rfl⟩ := ih
    by_cases hl : OpensSection l
    · exact ⟨⟨[], ⟨l, d.preamble, hl, d.plain⟩ :: d.sections, nofun⟩, rfl⟩
    · exact ⟨⟨l :: d.preamble, d.sections, List.forall_mem_cons.2 ⟨hl, d.plain⟩⟩, rfl⟩

/-- The entry on a line, if there is one. -/
def entryOn? (line : List Char) : Option (String × String) := entryOf? (trim line)

theorem entriesFrom_plain {ls : List (List Char)} (h : ∀ l ∈ ls, ¬ OpensSection l) (inside : Bool)
    (rest : List (List Char)) : entriesFrom inside (ls ++ rest) =
      (if inside then ls.filterMap entryOn? else []) ++ entriesFrom inside rest := by
  induction ls with
  | nil => simp
  | cons l ls ih =>
    obtain ⟨hl, hls⟩ := List.forall_mem_cons.1 h
    rw [OpensSection] at hl
    rw [List.cons_append, entriesFrom, if_neg hl, ih hls]
    cases inside with
    | false => rfl
    | true =>
      simp only [if_true]
      change (entryOn? l).toList ++ _ = _
      cases he : entryOn? l with
      | none => rw [List.filterMap_cons_none he]; rfl
      | some p => rw [List.filterMap_cons_some he]; rfl

/-- Whatever stands above a section, the section alone decides on its lines. -/
theorem entriesFrom_section (s : Section) (inside : Bool) (rest : List (List Char)) :
    entriesFrom inside (s.lines ++ rest) =
      (if s.isOfPackages then s.body.filterMap entryOn? else []) ++
        entriesFrom s.isOfPackages rest := by
  have hopens := s.opens
  rw [OpensSection] at hopens
  rw [Section.lines, List.cons_append, entriesFrom, if_pos hopens]
  exact entriesFrom_plain s.plain s.isOfPackages rest

theorem entriesFrom_sections (ss : List Section) (inside : Bool) :
    entriesFrom inside (ss.flatMap Section.lines) =
      ((ss.filter Section.isOfPackages).flatMap Section.body).filterMap entryOn? := by
  induction ss generalizing inside with
  | nil => rfl
  | cons s ss ih =>
    rw [List.flatMap_cons, entriesFrom_section, ih, List.filter_cons]
    cases s.isOfPackages with
    | false => rfl
    | true => simp only [if_true, List.flatMap_cons, List.filterMap_append]

/-- **Only the lines of the sections of packages count**, and none of the others matters. -/
theorem entriesFrom_document (d : Document) :
    entriesFrom false d.lines = d.packageLines.filterMap entryOn? := by
  rw [Document.lines, entriesFrom_plain d.plain, entriesFrom_sections]
  rfl

theorem dependencies_eq {text : String} {d : Document} (h : Text.lines text.toList = d.lines) :
    dependencies text = Table.ofList (d.packageLines.filterMap entryOn?) := by
  rw [dependencies, h, entriesFrom_document]

/-- Whether a line says nothing: blank, or a comment. -/
inductive IsIdle : List Char → Prop where
  | blank {l : List Char} (h : IsBlankRun l) : IsIdle l
  | comment {a rest : List Char} (h : IsBlankRun a) : IsIdle (a ++ '#' :: rest)

/-- Whether a text can be the name in an entry. -/
structure IsEntryName (name : List Char) : Prop where
  ne_nil : name ≠ []
  no_equals : '=' ∉ name
  no_quote : '"' ∉ name

/-- A text between double quotes. -/
def enclosed (s : List Char) : List Char := '"' :: (s ++ ['"'])

/-- How the name of an entry is written: as it is, if it does not begin like another kind of line,
or between quotes. -/
inductive IsKey (name : List Char) : List Char → Prop where
  | bare (tight : IsTight name) (not_section : name.head? ≠ some '[')
    (not_comment : name.head? ≠ some '#') : IsKey name name
  | quoted : IsKey name (enclosed name)

/-- Whether a text can be the version in an entry. -/
structure IsEntryVersion (version : List Char) : Prop where
  no_space : ' ' ∉ version
  no_quote : '"' ∉ version

/-- A line `name = "version"` or `"name" = "version"`, with blanks around its parts. -/
inductive IsEntry : List Char → String × String → Prop where
  | intro (name version : String) {a b c d key : List Char} (ha : IsBlankRun a) (hb : IsBlankRun b)
    (hc : IsBlankRun c) (hd : IsBlankRun d) (hname : IsEntryName name.toList)
    (hkey : IsKey name.toList key) (hversion : IsEntryVersion version.toList) :
    IsEntry (a ++ (key ++ (b ++ '=' :: c) ++ enclosed version.toList) ++ d) (name, version)

theorem entryOn?_of_isIdle {l : List Char} (h : IsIdle l) : entryOn? l = none := by
  cases h with
  | blank h =>
    rw [entryOn?, trim_of_isBlankRun h]
    rfl
  | comment h =>
    rw [entryOn?, trim_blanks_append h, trim_cons (by decide)]
    rfl

theorem entryOf?_assignment {before : List Char} (hequals : '=' ∉ before)
    (hcomment : before.head? ≠ some '#') (value : List Char)
    (hname : unquote (trim before) ≠ []) : entryOf? (before ++ '=' :: value) =
      some (String.ofList (unquote (trim before)),
        String.ofList ((unquote (trim value)).takeWhile (· != ' '))) := by
  have htake : (before ++ '=' :: value).takeWhile (· != '=') = before :=
    takeWhile_append_stop (bne_of_not_mem hequals) rfl value
  have hdrop : (before ++ '=' :: value).dropWhile (· != '=') = '=' :: value :=
    dropWhile_append_stop (bne_of_not_mem hequals) rfl value
  have hentry : ((before ++ '=' :: value).isEmpty ||
      (before ++ '=' :: value).head? == some '#') = false := by
    cases before with
    | nil => rfl
    | cons c before => simpa using hcomment
  rw [entryOf?, hentry, htake, hdrop]
  simp [hname]

theorem isTight_enclosed (s : List Char) : IsTight (enclosed s) := by
  have hquote : IsTight ['"'] := by decide
  exact hquote.append (List.cons_ne_nil _ _) hquote (List.cons_ne_nil _ _) s

theorem ne_quote_of_not_mem {s : List Char} (h : '"' ∉ s) : ∀ c ∈ s, (c == '"') = false := by
  intro c hc
  rw [beq_eq_false_iff_ne]
  rintro rfl
  exact h hc

theorem unquote_enclosed {s : List Char} (h : '"' ∉ s) : unquote (enclosed s) = s :=
  strip_enclosed (by decide) (ne_quote_of_not_mem h)

namespace IsKey

variable {name key : List Char}

theorem tight (h : IsKey name key) : IsTight key := by
  cases h with
  | bare tight => exact tight
  | quoted => exact isTight_enclosed name

theorem ne_nil (h : IsKey name key) (hname : IsEntryName name) : key ≠ [] := by
  cases h with
  | bare => exact hname.ne_nil
  | quoted => exact List.cons_ne_nil _ _

theorem no_equals (h : IsKey name key) (hname : IsEntryName name) : '=' ∉ key := by
  cases h with
  | bare => exact hname.no_equals
  | quoted => simp [enclosed, hname.no_equals]

theorem not_comment (h : IsKey name key) : key.head? ≠ some '#' := by
  cases h with
  | bare _ _ hcomment => exact hcomment
  | quoted => simp [enclosed]

theorem unquote_eq (h : IsKey name key) (hname : IsEntryName name) : unquote key = name := by
  cases h with
  | bare => exact strip_of_forall (ne_quote_of_not_mem hname.no_quote)
  | quoted => exact unquote_enclosed hname.no_quote

end IsKey

/-- **An entry is read as its name and version**, however it is spaced and whether its name is
quoted or not. -/
theorem entryOn?_of_isEntry {l : List Char} {p : String × String} (h : IsEntry l p) :
    entryOn? l = some p := by
  obtain @⟨name, version, a, b, c, d, key, ha, hb, hc, hd, hname, hkey, hversion⟩ := h
  have hne := hkey.ne_nil hname
  have htight := hkey.tight.append hne (isTight_enclosed version.toList) (List.cons_ne_nil _ _)
    (b ++ '=' :: c)
  have hassign : key ++ (b ++ '=' :: c) ++ enclosed version.toList =
      (key ++ b) ++ '=' :: (c ++ enclosed version.toList) := by simp
  have hequals : '=' ∉ key ++ b := by
    rw [List.mem_append, not_or]
    exact ⟨hkey.no_equals hname, fun hm => absurd (hb _ hm) (by decide)⟩
  have hcomment : (key ++ b).head? ≠ some '#' := by
    rw [List.head?_append_of_ne_nil _ hne]
    exact hkey.not_comment
  have hkeyTrim : trim (key ++ b) = key := trim_padded (a := []) nofun hkey.tight hb
  have hvalueTrim : trim (c ++ enclosed version.toList) = enclosed version.toList := by
    have hpadded := trim_padded (b := []) hc (isTight_enclosed version.toList) nofun
    rwa [List.append_nil] at hpadded
  have hfirst : version.toList.takeWhile (· != ' ') = version.toList :=
    List.takeWhile_eq_self_iff.2 (bne_of_not_mem hversion.no_space)
  have hnameEq := hkey.unquote_eq hname
  rw [entryOn?, trim_padded ha htight hd, hassign,
    entryOf?_assignment hequals hcomment _ (by rw [hkeyTrim, hnameEq]; exact hname.ne_nil),
    hkeyTrim, hvalueTrim, hnameEq, unquote_enclosed hversion.no_quote, hfirst,
    String.ofList_toList, String.ofList_toList]

/-- **A manifest holds the entries of its sections of packages**, the last one of a name winning. No
other line matters: two manifests with the same lines in their sections of packages hold the
same. -/
theorem dependencies_of_document (text : String) :
    (∃ d : Document, Text.lines text.toList = d.lines) ∧
    ∀ d : Document, Text.lines text.toList = d.lines →
      (∀ (text' : String) (d' : Document), Text.lines text'.toList = d'.lines →
        d'.packageLines = d.packageLines → dependencies text' = dependencies text) ∧
      ∀ entries, LinesDeclare IsIdle IsEntry d.packageLines entries →
        ∀ name, (dependencies text).get? name = Entries.last? name entries := by
  refine ⟨exists_document _, fun d hd => ⟨fun text' d' hd' hlines => ?_, fun entries h name => ?_⟩⟩
  · rw [dependencies_eq hd, dependencies_eq hd', hlines]
  · have hentries : d.packageLines.filterMap entryOn? = entries :=
      h.filterMap_eq (fun _ hl => entryOn?_of_isIdle hl) fun _ _ hl => entryOn?_of_isEntry hl
    rw [dependencies_eq hd, hentries, Table.get?_ofList]

/-- A manifest with two sections of packages around another one. -/
def spreadDocument : Document where
  preamble := ["serde = \"0\"".toList]
  sections := [
    ⟨"[dependencies]".toList, ["# pinned".toList, "\tserde=\"1.0\"".toList, []], by decide,
      by decide⟩,
    ⟨"[dev-dependencies]".toList, ["serde = \"9\"".toList], by decide, by decide⟩,
    ⟨" [dependencies] ".toList, ["\" a b \" = \"=2\"".toList, "serde = \"1.1\" ".toList],
      by decide, by decide⟩]
  plain := by decide

/-- The text of that manifest. -/
def spreadText : String := String.ofList (endLines spreadDocument.lines)

/-- Of a package with entries in both sections the second one counts; a name between quotes may have
blanks at its ends. -/
theorem dependencies_spreadText :
    Text.lines spreadText.toList = spreadDocument.lines ∧
    LinesDeclare IsIdle IsEntry spreadDocument.packageLines
      [("serde", "1.0"), (" a b ", "=2"), ("serde", "1.1")] ∧
    (dependencies spreadText).get? "serde" = some "1.1" ∧
    (dependencies spreadText).get? " a b " = some "=2" := by
  have hlines : Text.lines spreadText.toList = spreadDocument.lines := by
    rw [spreadText, String.toList_ofList, lines_endLines (by decide +kernel)]
  have hentries : LinesDeclare IsIdle IsEntry spreadDocument.packageLines
      [("serde", "1.0"), (" a b ", "=2"), ("serde", "1.1")] := by
    refine .idle (.comment (a := []) nofun) (.declares ?_ (.idle (.blank nofun)
      (.declares ?_ (.declares ?_ .nil))))
    · exact .intro "serde" "1.0" (a := ['\t']) (b := []) (c := []) (d := []) (by decide) nofun nofun
        nofun ⟨by decide, by decide, by decide⟩ (.bare (by decide) (by decide) (by decide))
        ⟨by decide, by decide⟩
    · exact .intro " a b " "=2" (a := []) (b := [' ']) (c := [' ']) (d := []) nofun (by decide)
        (by decide) nofun ⟨by decide, by decide, by decide⟩ .quoted ⟨by decide, by decide⟩
    · exact .intro "serde" "1.1" (a := []) (b := [' ']) (c := [' ']) (d := [' ']) nofun (by decide)
        (by decide) (by decide) ⟨by decide, by decide, by decide⟩
        (.bare (by decide) (by decide) (by decide)) ⟨by decide, by decide⟩
  have hholds := ((dependencies_of_document spreadText).2 spreadDocument hlines).2 _ hentries
  exact ⟨hlines, hentries, hholds "serde", hholds " a b "⟩

end Fingerprint.CrateManifest
