/-
What a manifest of declarations declares. A declaration is a keyword, blanks
and a quoted name, and perhaps a comma and a quoted version; any quote closes
what any quote has opened. What follows a name gives its version iff it begins
with a comma and a quoted text (`version?_eq_some_iff`), and the rest of the
line does not matter (`declarationOn?_of_isDeclaration`). So the manifest holds
what its lines declare, the last one of a name winning
(`dependencies_of_declarations`).
-/
import Fingerprint.Manifest.Declarations
import Fingerprint.Proofs.Entries
import Fingerprint.Proofs.Manifest.Lines
import Fingerprint.Proofs.Text.Pieces

namespace Fingerprint.Declarations

open Text

/-- Whether a text can stand between quotes: it is not empty and holds none. -/
structure IsQuotable (s : List Char) : Prop where
  ne_nil : s ≠ []
  no_quote : ∀ c ∈ s, isQuote c = false

/-- A text between two quotes of either kind. -/
inductive IsLiteral (s : List Char) : List Char → Prop where
  | intro (q q' : Char) (hq : isQuote q = true) (hs : IsQuotable s) (hq' : isQuote q' = true) :
    IsLiteral s (q :: (s ++ [q']))

/-- Whether a text begins with a comma, perhaps blanks, and a version between quotes. -/
inductive BeginsVersion (version : List Char) : List Char → Prop where
  | intro {b l r : List Char} (hb : IsBlankRun b) (hl : IsLiteral version l) :
    BeginsVersion version (',' :: (b ++ (l ++ r)))

/-- What follows a name, and the version that it gives. -/
inductive GivesVersion : List Char → String → Prop where
  | stated {r : List Char} (version : String) (h : BeginsVersion version.toList r) :
    GivesVersion r version
  | latest {r : List Char} (h : ∀ version, ¬ BeginsVersion version r) : GivesVersion r "latest"

/-- A line that declares a package: the keyword, a space, perhaps more blanks, the name between
quotes, and what follows it. -/
inductive IsDeclaration (keyword : String) : List Char → String × String → Prop where
  | intro {a b l r : List Char} (name version : String) (ha : IsBlankRun a) (hb : IsBlankRun b)
    (hname : IsLiteral name.toList l) (hversion : GivesVersion r version) :
    IsDeclaration keyword (a ++ (keyword.toList ++ ' ' :: (b ++ (l ++ r)))) (name, version)

/-- Whether a line declares nothing: it does not begin with the keyword and a space. -/
def IsIdle (keyword : String) (line : List Char) : Prop :=
  ¬ keyword.toList ++ [' '] <+: trim line

instance : DecidablePred IsQuotable := fun s =>
  have : Decidable (∀ c ∈ s, isQuote c = false) := List.decidableBAll _ s
  decidable_of_iff (s ≠ [] ∧ ∀ c ∈ s, isQuote c = false)
    ⟨fun h => ⟨h.1, h.2⟩, fun h => ⟨h.ne_nil, h.no_quote⟩⟩

instance (keyword : String) : DecidablePred (IsIdle keyword) := fun line =>
  inferInstanceAs (Decidable (¬ keyword.toList ++ [' '] <+: trim line))

variable {keyword : String} {s l r version : List Char}

theorem isBlank_of_isQuote {c : Char} (h : isQuote c = true) : isBlank c = false := by
  simp only [isQuote, Bool.or_eq_true, decide_eq_true_eq] at h
  rcases h with rfl | rfl <;> decide

namespace IsLiteral

theorem tight (h : IsLiteral s l) : IsTight l := by
  obtain ⟨q, q', hq, -, hq'⟩ := h
  refine ⟨fun c hc => ?_, fun c hc => ?_⟩
  · cases hc
    exact isBlank_of_isQuote hq
  · rw [← List.cons_append, List.getLast?_concat] at hc
    cases hc
    exact isBlank_of_isQuote hq'

theorem ne_nil (h : IsLiteral s l) : l ≠ [] := by
  obtain ⟨q, q', -, -, -⟩ := h
  exact List.cons_ne_nil _ _

theorem trimStart_append (h : IsLiteral s l) {b : List Char} (hb : IsBlankRun b) :
    trimStart (b ++ (l ++ r)) = l ++ r := by
  obtain ⟨q, q', hq, -, -⟩ := h
  rw [trimStart, List.dropWhile_append_of_pos hb, List.cons_append,
    List.dropWhile_cons_of_neg (by rw [isBlank_of_isQuote hq]; exact Bool.false_ne_true)]

end IsLiteral

theorem literal?_append (h : IsLiteral s l) (r : List Char) : literal? (l ++ r) = some (s, r) := by
  obtain ⟨q, q', hq, ⟨hne, hfree⟩, hq'⟩ := h
  have htext : ∀ c ∈ s, (!isQuote c) = true := fun c hc => by rw [hfree c hc]; rfl
  have htake : (s ++ q' :: r).takeWhile (!isQuote ·) = s :=
    takeWhile_append_stop htext (by simp [hq']) r
  have hdrop : (s ++ q' :: r).dropWhile (!isQuote ·) = q' :: r :=
    dropWhile_append_stop htext (by simp [hq']) r
  have hsplit : q :: (s ++ [q']) ++ r = q :: (s ++ q' :: r) := by simp
  rw [hsplit, literal?, if_pos hq, htake, hdrop]
  cases s with
  | nil => exact absurd rfl hne
  | cons c s => rfl

theorem exists_of_literal? {t : List Char} (h : literal? t = some (s, r)) :
    ∃ l, IsLiteral s l ∧ t = l ++ r := by
  unfold literal? at h
  split at h
  next => cases h
  next q rest =>
    split at h
    next hq =>
      have hsplit : rest.takeWhile (!isQuote ·) ++ rest.dropWhile (!isQuote ·) = rest :=
        List.takeWhile_append_dropWhile
      have hend := List.head?_dropWhile_not (!isQuote ·) rest
      have hfree : ∀ c ∈ rest.takeWhile (!isQuote ·), isQuote c = false := fun c hc => by
        simpa using List.mem_takeWhile_imp hc
      revert h hsplit hend hfree
      cases rest.takeWhile (!isQuote ·) with
      | nil => nofun
      | cons c text =>
        cases rest.dropWhile (!isQuote ·) with
        | nil => nofun
        | cons q' after =>
          rintro ⟨⟩ hsplit hend hfree
          refine ⟨_, .intro _ _ hq ⟨List.cons_ne_nil _ _, hfree⟩ (by simpa using hend), ?_⟩
          simp [← hsplit]
    next => cases h

/-- **A text between quotes is read up to the first quote in it**, and nothing else is read. -/
theorem literal?_eq_some_iff {t : List Char} :
    literal? t = some (s, r) ↔ ∃ l, IsLiteral s l ∧ t = l ++ r := by
  refine ⟨exists_of_literal?, ?_⟩
  rintro ⟨l, hl, rfl⟩
  exact literal?_append hl r

/-- **A version is read iff one follows the name.** -/
theorem version?_eq_some_iff : version? r = some version ↔ BeginsVersion version r := by
  constructor
  · intro h
    unfold version? at h
    split at h
    next rest =>
      obtain ⟨⟨s, after⟩, hs, rfl⟩ := Option.map_eq_some_iff.1 h
      obtain ⟨l, hl, hrest⟩ := literal?_eq_some_iff.1 hs
      have hblank : IsBlankRun (rest.takeWhile isBlank) := fun c hc => List.mem_takeWhile_imp hc
      have hsplit : rest = rest.takeWhile isBlank ++ (l ++ after) := by
        rw [← hrest]
        exact List.takeWhile_append_dropWhile.symm
      rw [hsplit]
      exact .intro hblank hl
    next => cases h
  · rintro ⟨hb, hl⟩
    rw [version?, hl.trimStart_append hb, literal?_append hl]
    rfl

theorem BeginsVersion.append (h : BeginsVersion version r) (x : List Char) :
    BeginsVersion version (r ++ x) := by
  obtain ⟨hb, hl⟩ := h
  simpa using BeginsVersion.intro hb hl

theorem BeginsVersion.trimEnd (h : BeginsVersion version r) :
    BeginsVersion version (trimEnd r) := by
  obtain @⟨b, l, r, hb, hl⟩ := h
  have hend := trimEnd_append (w := ',' :: (b ++ l)) (by simp) (fun c hc => ?_) r
  · have hsplit : ',' :: (b ++ (l ++ r)) = ',' :: (b ++ l) ++ r := by simp
    rw [hsplit, hend]
    simpa using BeginsVersion.intro hb hl
  · rw [← List.cons_append, List.getLast?_append_of_ne_nil _ hl.ne_nil] at hc
    exact hl.tight.last c hc

theorem beginsVersion_trimEnd_iff : BeginsVersion version (trimEnd r) ↔ BeginsVersion version r := by
  refine ⟨fun h => ?_, BeginsVersion.trimEnd⟩
  obtain ⟨x, hx⟩ := trimEnd_isPrefix r
  rw [← hx]
  exact h.append x

theorem GivesVersion.eq {version : String} (h : GivesVersion r version) :
    ((version? (trimEnd r)).map String.ofList).getD latestVersion = version := by
  cases h with
  | stated version h =>
    rw [version?_eq_some_iff.2 h.trimEnd, Option.map_some, String.ofList_toList, Option.getD_some]
  | latest h =>
    have hnone : version? (Text.trimEnd r) = none :=
      Option.eq_none_iff_forall_ne_some.2 fun v hv =>
        h v (beginsVersion_trimEnd_iff.1 (version?_eq_some_iff.1 hv))
    rw [hnone]
    rfl

/-- The declaration on a line, if there is one. -/
def declarationOn? (keyword : String) (line : List Char) : Option (String × String) :=
  declaration? keyword (trim line)

theorem declarationOn?_of_isIdle (h : IsIdle keyword s) : declarationOn? keyword s = none := by
  rw [declarationOn?, declaration?, if_neg fun hp => h (List.isPrefixOf_iff_prefix.1 hp)]

/-- **A declaration is read as its name and version**, whatever its quotes are and whatever follows
them. -/
theorem declarationOn?_of_isDeclaration (hkeyword : IsWord keyword.toList) {p : String × String}
    (h : IsDeclaration keyword s p) : declarationOn? keyword s = some p := by
  obtain @⟨a, b, l, r, name, version, ha, hb, hname, hversion⟩ := h
  have htight := hkeyword.tight.append hkeyword.ne_nil hname.tight hname.ne_nil (' ' :: b)
  have htrim : trim (a ++ (keyword.toList ++ ' ' :: (b ++ (l ++ r)))) =
      keyword.toList ++ ' ' :: (b ++ (l ++ trimEnd r)) := by
    have hend := trim_append (by simp [hkeyword.ne_nil]) htight r
    rw [trim_blanks_append ha]
    simpa using hend
  have hbegins : (keyword.toList ++ [' ']).isPrefixOf
      (keyword.toList ++ ' ' :: (b ++ (l ++ trimEnd r))) = true := by
    rw [List.isPrefixOf_iff_prefix]
    exact ⟨b ++ (l ++ trimEnd r), by simp⟩
  have hafter : (keyword.toList ++ ' ' :: (b ++ (l ++ trimEnd r))).drop keyword.length =
      (' ' :: b) ++ (l ++ trimEnd r) := by
    rw [← String.length_toList, List.drop_left]
    rfl
  have hspace : IsBlankRun (' ' :: b) := List.forall_mem_cons.2 ⟨by decide, hb⟩
  rw [declarationOn?, htrim, declaration?, if_pos hbegins, hafter, hname.trimStart_append hspace,
    literal?_append hname, Option.map_some, hversion.eq, String.ofList_toList]

/-- **A manifest holds what its lines declare**, the last declaration of a name winning. -/
theorem dependencies_of_declarations {text : String} (hkeyword : IsWord keyword.toList)
    {ps : List (String × String)}
    (h : LinesDeclare (IsIdle keyword) (IsDeclaration keyword) (lines text.toList) ps)
    (name : String) : (dependencies keyword text).get? name = Entries.last? name ps := by
  have hpairs : declarations keyword text.toList = ps :=
    h.filterMap_eq (fun _ hl => declarationOn?_of_isIdle hl)
      fun _ _ hl => declarationOn?_of_isDeclaration hkeyword hl
  rw [dependencies, hpairs, Table.get?_ofList]

theorem isWord_keywords : ∀ keyword ∈ ["gem", "pod"], IsWord keyword.toList := by decide

/-- The lines of a manifest that declares one package twice. -/
def redeclaredLines : List (List Char) := [
  "source 'x.org'".toList, "gem 'a', \"1\", b: 0".toList, "gems 'a', '9'".toList, [],
  "\tgem  \"c d', e: 'f'".toList, "gem 'a\",'2' # '3'".toList]

/-- That manifest as a text. -/
def redeclaredText : String := String.ofList (endLines redeclaredLines)

/-- The second declaration counts. An option after the name is no version, even if its value is
quoted. -/
theorem dependencies_redeclaredText :
    LinesDeclare (IsIdle "gem") (IsDeclaration "gem") (lines redeclaredText.toList)
      [("a", "1"), ("c d", "latest"), ("a", "2")] ∧
    (dependencies "gem" redeclaredText).get? "a" = some "2" ∧
    (dependencies "gem" redeclaredText).get? "c d" = some "latest" := by
  have hlines : lines redeclaredText.toList = redeclaredLines := by
    rw [redeclaredText, String.toList_ofList, lines_endLines (by decide +kernel)]
  have hname : IsQuotable "a".toList := by decide
  have hoption : ∀ version, ¬ BeginsVersion version ", e: 'f'".toList := by
    intro version h
    have hread : version? ", e: 'f'".toList = none := by decide
    cases hread.symm.trans (version?_eq_some_iff.2 h)
  have hfirst : IsDeclaration "gem" "gem 'a', \"1\", b: 0".toList ("a", "1") :=
    .intro (a := []) (b := []) "a" "1" nofun nofun (.intro '\'' '\'' rfl hname rfl)
      (.stated "1" (.intro (b := [' ']) (r := ", b: 0".toList) (by decide)
        (.intro '"' '"' rfl (by decide) rfl)))
  have hlatest : IsDeclaration "gem" "\tgem  \"c d', e: 'f'".toList ("c d", "latest") :=
    .intro (a := ['\t']) (b := [' ']) "c d" "latest" (by decide) (by decide)
      (.intro '"' '\'' rfl (by decide) rfl) (.latest hoption)
  have hsecond : IsDeclaration "gem" "gem 'a\",'2' # '3'".toList ("a", "2") :=
    .intro (a := []) (b := []) "a" "2" nofun nofun (.intro '\'' '"' rfl hname rfl)
      (.stated "2" (.intro (b := []) (r := " # '3'".toList) nofun
        (.intro '\'' '\'' rfl (by decide) rfl)))
  have hlist : LinesDeclare (IsIdle "gem") (IsDeclaration "gem") (lines redeclaredText.toList)
      [("a", "1"), ("c d", "latest"), ("a", "2")] := by
    rw [hlines]
    exact .idle (by decide) (.declares hfirst (.idle (by decide) (.idle (by decide)
      (.declares hlatest (.declares hsecond .nil)))))
  have hholds := dependencies_of_declarations (isWord_keywords "gem" (by simp)) hlist
  exact ⟨hlist, hholds "a", hholds "c d"⟩

end Fingerprint.Declarations
