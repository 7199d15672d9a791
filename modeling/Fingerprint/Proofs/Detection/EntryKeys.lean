/-
Entries of configuration files as they are written: the word `entry` in either
case, a colon or an equals sign, and a value between double quotes, with blanks
around the sign (`IsEntry`). The value that is found is that of the first entry
of a text (`findEntryValue?_eq_some_iff`). Since an entry ends at its second
quote, none that begins earlier can reach beyond another one
(`IsEntry.eq_nil_of_holds`), so what stands behind the first entry does not
matter (`configEntry_leftmost`).
-/
import Fingerprint.Detection.ConfigEntry
import Fingerprint.Proofs.Text.Pieces

namespace Fingerprint.Detection

open Text

/-- Whether a text is the word `entry` in either case. -/
def IsEntryWord (key : List Char) : Prop := key.map Char.toLower = "entry".toList

/-- Whether a text can stand between double quotes as a value: it is not empty and holds none. -/
structure IsEntryValue (v : List Char) : Prop where
  ne_nil : v ≠ []
  no_quote : '"' ∉ v

/-- An entry and its value: the word, a sign and the value between quotes, with blanks around the
sign. -/
inductive IsEntry (v : List Char) : List Char → Prop where
  | intro {key a b : List Char} {sign : Char} (hkey : IsEntryWord key) (ha : IsBlankRun a)
    (hsign : sign = ':' ∨ sign = '=') (hb : IsBlankRun b) (hv : IsEntryValue v) :
    IsEntry v (key ++ (a ++ sign :: (b ++ '"' :: (v ++ ['"']))))

/-- Whether an entry with the value `v` stands in a text, `p` before it and `s` behind it. -/
def HasEntryAt (t p v s : List Char) : Prop := ∃ m, IsEntry v m ∧ t = p ++ (m ++ s)

/-- Whether this is the first entry: no other has a shorter text before it. -/
structure IsFirstEntryAt (t p v s : List Char) : Prop where
  here : HasEntryAt t p v s
  least : ∀ p' v' s', HasEntryAt t p' v' s' → p.length ≤ p'.length

instance : DecidablePred IsEntryWord := fun key =>
  inferInstanceAs (Decidable (key.map Char.toLower = "entry".toList))

instance : DecidablePred IsEntryValue := fun v =>
  decidable_of_iff (v ≠ [] ∧ '"' ∉ v) ⟨fun h => ⟨h.1, h.2⟩, fun h => ⟨h.ne_nil, h.no_quote⟩⟩

variable {a b m p q r s t v w x : List Char} {c : Char}

theorem afterWord?_eq_some_iff :
    afterWord? w s = some r ↔ ∃ key, key.map Char.toLower = w ∧ s = key ++ r := by
  fun_induction afterWord? w s with
  | case1 s => simp [eq_comm]
  | case2 w ws =>
    refine ⟨nofun, ?_⟩
    rintro ⟨key, hkey, hs⟩
    rw [List.nil_eq_append_iff] at hs
    rw [hs.1] at hkey
    cases hkey
  | case3 ws c s ih =>
    rw [ih]
    constructor
    · rintro ⟨key, rfl, rfl⟩
      exact ⟨c :: key, rfl, rfl⟩
    · rintro ⟨key, hkey, hs⟩
      cases key with
      | nil => cases hkey
      | cons d key =>
        cases hs
        exact ⟨key, (List.cons.inj hkey).2, rfl⟩
  | case4 w ws c s hc =>
    refine ⟨nofun, ?_⟩
    rintro ⟨key, hkey, hs⟩
    cases key with
    | nil => cases hkey
    | cons d key =>
      cases hs
      exact absurd (List.cons.inj hkey).1 hc

theorem quotedValue?_eq_some_iff :
    quotedValue? s = some v ↔ IsEntryValue v ∧ ∃ r, s = '"' :: (v ++ '"' :: r) := by
  constructor
  · intro h
    unfold quotedValue? at h
    split at h
    next rest =>
      have hsplit : rest.takeWhile (· != '"') ++ rest.dropWhile (· != '"') = rest :=
        List.takeWhile_append_dropWhile
      have hend := List.head?_dropWhile_not (· != '"') rest
      have hfree : '"' ∉ rest.takeWhile (· != '"') := fun hq => by
        simpa using List.mem_takeWhile_imp hq
      revert h hsplit hend hfree
      cases rest.takeWhile (· != '"') with
      | nil => nofun
      | cons c text =>
        cases rest.dropWhile (· != '"') with
        | nil => nofun
        | cons d after =>
          rintro ⟨⟩ hsplit hend hfree
          have hd : d = '"' := by simpa using hend
          exact ⟨⟨List.cons_ne_nil _ _, hfree⟩, after, by rw [← hsplit, hd]⟩
    next => cases h
  · rintro ⟨⟨hne, hfree⟩, r, rfl⟩
    have htake : (v ++ '"' :: r).takeWhile (· != '"') = v :=
      takeWhile_append_stop (bne_of_not_mem hfree) rfl r
    have hdrop : (v ++ '"' :: r).dropWhile (· != '"') = '"' :: r :=
      dropWhile_append_stop (bne_of_not_mem hfree) rfl r
    rw [quotedValue?, htake, hdrop]
    cases v with
    | nil => exact absurd rfl hne
    | cons c v => rfl

theorem isBlank_of_isSign (h : c = ':' ∨ c = '=') : isBlank c = false := by
  rcases h with rfl | rfl <;> decide

/-- **A value is read from an entry that begins at once**, whatever is behind it. -/
theorem entryHere?_eq_some_iff : entryHere? s = some v ↔ ∃ m r, IsEntry v m ∧ s = m ++ r := by
  constructor
  · intro h
    unfold entryHere? at h
    split at h
    next => cases h
    next rest hword =>
      obtain ⟨key, hkey, rfl⟩ := afterWord?_eq_some_iff.1 hword
      split at h
      next sign value htrim =>
        obtain ⟨hsign, hvalue⟩ := Option.ite_none_right_eq_some.1 h
        obtain ⟨hv, r, hquoted⟩ := quotedValue?_eq_some_iff.1 hvalue
        obtain ⟨-, a, ha, rfl⟩ := trimStart_eq_cons_iff.1 htrim
        obtain ⟨-, b, hb, rfl⟩ := trimStart_eq_cons_iff.1 hquoted
        exact ⟨_, r, .intro hkey ha hsign hb hv, by simp⟩
      next => cases h
  · rintro ⟨m, r, @⟨key, a, b, sign, hkey, ha, hsign, hb, hv⟩, rfl⟩
    have hword : afterWord? "entry".toList
        (key ++ (a ++ sign :: (b ++ '"' :: (v ++ ['"']))) ++ r) =
          some (a ++ sign :: (b ++ '"' :: (v ++ '"' :: r))) :=
      afterWord?_eq_some_iff.2 ⟨key, hkey, by simp⟩
    have hstart : trimStart (a ++ sign :: (b ++ '"' :: (v ++ '"' :: r))) =
        sign :: (b ++ '"' :: (v ++ '"' :: r)) :=
      trimStart_eq_cons_iff.2 ⟨isBlank_of_isSign hsign, a, ha, rfl⟩
    have hvalue : trimStart (b ++ '"' :: (v ++ '"' :: r)) = '"' :: (v ++ '"' :: r) :=
      trimStart_eq_cons_iff.2 ⟨by decide, b, hb, rfl⟩
    simp only [entryHere?, hword, hstart, hvalue, if_pos hsign]
    exact quotedValue?_eq_some_iff.2 ⟨hv, r, rfl⟩

theorem IsEntry.ne_nil (h : IsEntry v m) : m ≠ [] := by
  obtain ⟨-, -, -, -, -⟩ := h
  simp

theorem not_hasEntryAt_nil : ¬ HasEntryAt [] p v s := by
  rintro ⟨m, hm, hnil⟩
  simp [hm.ne_nil] at hnil

theorem hasEntryAt_cons_nil_iff :
    (∃ s, HasEntryAt (c :: t) [] v s) ↔ entryHere? (c :: t) = some v := by
  rw [entryHere?_eq_some_iff]
  exact exists_comm

theorem hasEntryAt_cons_cons_iff {d : Char} :
    HasEntryAt (c :: t) (d :: p) v s ↔ d = c ∧ HasEntryAt t p v s := by
  simp only [HasEntryAt, List.cons_append, List.cons.injEq]
  grind

theorem hasEntryAt_cons_iff (hhere : entryHere? (c :: t) = none) :
    HasEntryAt (c :: t) p v s ↔ ∃ q, p = c :: q ∧ HasEntryAt t q v s := by
  cases p with
  | nil =>
    refine iff_of_false (fun hentry => ?_) (by simp)
    have hsome := hasEntryAt_cons_nil_iff.1 ⟨s, hentry⟩
    rw [hhere] at hsome
    cases hsome
  | cons d p => simp [hasEntryAt_cons_cons_iff]

theorem findEntryValue?_eq_none_iff :
    findEntryValue? t = none ↔ ∀ p v s, ¬ HasEntryAt t p v s := by
  induction t with
  | nil => exact ⟨fun _ p v s => not_hasEntryAt_nil, fun _ => rfl⟩
  | cons c t ih =>
    rw [findEntryValue?]
    cases hhere : entryHere? (c :: t) with
    | some v =>
      obtain ⟨s, hs⟩ := hasEntryAt_cons_nil_iff.2 hhere
      exact ⟨nofun, fun hnone => absurd hs (hnone [] v s)⟩
    | none =>
      simp only [ih, hasEntryAt_cons_iff hhere]
      constructor
      · rintro hnone p v s ⟨q, -, hq⟩
        exact hnone q v s hq
      · intro hnone q v s hq
        exact hnone (c :: q) v s ⟨q, rfl, hq⟩

/-- What is found is the value of the first entry. -/
theorem exists_isFirstEntryAt (h : findEntryValue? t = some v) :
    ∃ p s, IsFirstEntryAt t p v s := by
  induction t with
  | nil => cases h
  | cons c t ih =>
    rw [findEntryValue?] at h
    cases hhere : entryHere? (c :: t) with
    | some w =>
      rw [hhere] at h
      cases h
      obtain ⟨s, hs⟩ := hasEntryAt_cons_nil_iff.2 hhere
      exact ⟨[], s, hs, fun _ _ _ _ => Nat.zero_le _⟩
    | none =>
      rw [hhere] at h
      obtain ⟨p, s, hentry, hleast⟩ := ih h
      refine ⟨c :: p, s, (hasEntryAt_cons_iff hhere).2 ⟨p, rfl, hentry⟩, fun p' v' s' hother => ?_⟩
      obtain ⟨q, rfl, hq⟩ := (hasEntryAt_cons_iff hhere).1 hother
      exact Nat.succ_le_succ (hleast q v' s' hq)

theorem HasEntryAt.value_unique {v' s' : List Char} (h : HasEntryAt t p v s)
    (h' : HasEntryAt t p v' s') : v = v' := by
  obtain ⟨m, hm, rfl⟩ := h
  obtain ⟨m', hm', ht⟩ := h'
  have hread : entryHere? (m ++ s) = some v := entryHere?_eq_some_iff.2 ⟨m, s, hm, rfl⟩
  have hread' : entryHere? (m ++ s) = some v' :=
    entryHere?_eq_some_iff.2 ⟨m', s', hm', List.append_cancel_left ht⟩
  exact Option.some.inj (hread.symm.trans hread')

theorem IsFirstEntryAt.value_unique {p' v' s' : List Char} (h : IsFirstEntryAt t p v s)
    (h' : IsFirstEntryAt t p' v' s') : v = v' := by
  have hlength : p.length = p'.length :=
    Nat.le_antisymm (h.least _ _ _ h'.here) (h'.least _ _ _ h.here)
  obtain ⟨m, -, ht⟩ := h.here
  obtain ⟨m', -, ht'⟩ := h'.here
  have hp : p = p' := (List.append_inj (ht.symm.trans ht') hlength).1
  exact h.here.value_unique (hp ▸ h'.here)

/-- **The value of the first entry is found**, and no other. -/
theorem findEntryValue?_eq_some_iff :
    findEntryValue? t = some v ↔ ∃ p s, IsFirstEntryAt t p v s := by
  refine ⟨exists_isFirstEntryAt, ?_⟩
  rintro ⟨p, s, hfirst⟩
  cases hfind : findEntryValue? t with
  | none => exact absurd hfirst.here (findEntryValue?_eq_none_iff.1 hfind p v s)
  | some w =>
    obtain ⟨p', s', hfound⟩ := exists_isFirstEntryAt hfind
    rw [hfirst.value_unique hfound]

theorem HasEntryAt.isEntryValue (h : HasEntryAt t p v s) : IsEntryValue v := by
  obtain ⟨m, ⟨-, -, -, -, hv⟩, -⟩ := h
  exact hv

theorem configEntry_eq_iff {text value : String} (h : value ≠ "") :
    configEntry text = value ↔ ∃ p s, IsFirstEntryAt text.toList p value.toList s := by
  rw [← findEntryValue?_eq_some_iff, configEntry]
  cases findEntryValue? text.toList with
  | none => simp [h.symm]
  | some v => simp [← String.toList_inj]

theorem configEntry_eq_empty_iff {text : String} :
    configEntry text = "" ↔ ∀ p v s, ¬ HasEntryAt text.toList p v s := by
  rw [← findEntryValue?_eq_none_iff, configEntry]
  cases hfind : findEntryValue? text.toList with
  | none => simp
  | some v =>
    obtain ⟨p, s, hfirst⟩ := exists_isFirstEntryAt hfind
    have hne := hfirst.here.isEntryValue.ne_nil
    simp [← String.toList_inj, hne]

theorem quote_not_mem_of_isEntryWord (h : IsEntryWord p) : '"' ∉ p := by
  intro hq
  have hlower : Char.toLower '"' ∈ "entry".toList := by
    rw [← h]
    exact List.mem_map_of_mem hq
  exact absurd hlower (by decide)

theorem quote_not_mem_of_isBlankRun (h : IsBlankRun a) : '"' ∉ a := fun hq =>
  absurd (h _ hq) (by decide)

theorem IsEntry.count_quote (h : IsEntry v m) : m.count '"' = 2 := by
  obtain @⟨key, a, b, sign, hkey, ha, hsign, hb, hv⟩ := h
  have hplain : sign ≠ '"' := by rcases hsign with rfl | rfl <;> decide
  simp [List.count_eq_zero_of_not_mem (quote_not_mem_of_isEntryWord hkey),
    List.count_eq_zero_of_not_mem (quote_not_mem_of_isBlankRun ha),
    List.count_eq_zero_of_not_mem (quote_not_mem_of_isBlankRun hb),
    List.count_eq_zero_of_not_mem hv.no_quote, hplain]

theorem IsEntry.getLast? (h : IsEntry v m) : m.getLast? = some '"' := by
  obtain @⟨key, a, b, sign, -, -, -, -, -⟩ := h
  have hend : key ++ (a ++ sign :: (b ++ '"' :: (v ++ ['"']))) =
      key ++ a ++ sign :: b ++ '"' :: v ++ ['"'] := by simp
  rw [hend, List.getLast?_concat]

/-- An entry that holds another one ends with it. -/
theorem IsEntry.eq_nil_of_holds (h : IsEntry v m) (h' : IsEntry w (q ++ m ++ x)) : x = [] := by
  have hcount := h'.count_quote
  rw [List.count_append, List.count_append, h.count_quote] at hcount
  by_contra hx
  have hlast : x.getLast? = some '"' := by
    rw [← List.getLast?_append_of_ne_nil (q ++ m) hx, h'.getLast?]
  have hmore : 0 < x.count '"' := List.count_pos_iff.2 (List.mem_of_getLast? hlast)
  omega

/-- **What stands behind the first entry can be changed**: it stays the first. -/
theorem IsFirstEntryAt.change_behind (hm : IsEntry v m)
    (h : IsFirstEntryAt (p ++ (m ++ s)) p v s) (s' : List Char) :
    IsFirstEntryAt (p ++ (m ++ s')) p v s' := by
  refine ⟨⟨m, hm, rfl⟩, ?_⟩
  rintro p' v' r ⟨m', hm', ht⟩
  by_contra hshort
  obtain ⟨q, rfl⟩ : p' <+: p :=
    List.prefix_of_prefix_length_le ⟨m' ++ r, ht.symm⟩ (List.prefix_append p _) (by omega)
  have htail : q ++ m ++ s' = m' ++ r := by simpa using ht
  -- The other entry would end within the first one, and so stand in the text before the change, or
  -- it would hold the first one and go on behind it.
  have hwithin : m' <+: q ++ m := by
    rcases List.prefix_or_prefix_of_prefix ⟨r, htail.symm⟩ (List.prefix_append (q ++ m) s') with
      hle | ⟨x, rfl⟩
    · exact hle
    · obtain rfl := hm.eq_nil_of_holds hm'
      simp
  obtain ⟨x, hx⟩ := hwithin
  have hbefore : HasEntryAt (p' ++ q ++ (m ++ s)) p' v' (x ++ s) :=
    ⟨m', hm', by rw [← List.append_assoc m', hx]; simp⟩
  exact hshort (h.least _ _ _ hbefore)

/-- **The value of the first entry is taken, and exactly that.** A value is taken iff a text before,
an entry with that value and a text behind make up the whole, and no shorter text stands before an
entry; nothing is taken iff there is no entry. Any text may stand behind the first entry. -/
theorem configEntry_leftmost (text : String) :
    (∀ value ≠ "", configEntry text = value ↔
      ∃ p s, IsFirstEntryAt text.toList p value.toList s) ∧
    (configEntry text = "" ↔ ∀ p v s, ¬ HasEntryAt text.toList p v s) ∧
    ∀ p m v s, text.toList = p ++ (m ++ s) → IsEntry v m → IsFirstEntryAt text.toList p v s →
      ∀ s', configEntry (String.ofList (p ++ (m ++ s'))) = configEntry text := by
  refine ⟨fun value => configEntry_eq_iff, configEntry_eq_empty_iff, ?_⟩
  intro p m v s htext hm hfirst s'
  have hvalue : String.ofList v ≠ "" := by
    have hne := hfirst.here.isEntryValue.ne_nil
    simpa [← String.toList_inj] using hne
  have hchanged : IsFirstEntryAt (p ++ (m ++ s')) p v s' := (htext ▸ hfirst).change_behind hm s'
  rw [(configEntry_eq_iff hvalue).2 ⟨p, s', by simpa using hchanged⟩,
    (configEntry_eq_iff hvalue).2 ⟨p, s, by simpa using hfirst⟩]

/-- A text in which the word stands twice before an empty value, and then in two entries. -/
def crowdedText : String := "entryentry = \"\"\nENTRY\u2003:\n\"a\nb\" entry=\"z\""

/-- The entry with a value counts that begins first, and the one behind it may become any other. -/
theorem configEntry_leftmost_crowded : configEntry crowdedText = "a\nb" ∧
    ∃ p m s, crowdedText.toList = p ++ (m ++ s) ∧ IsEntry "a\nb".toList m ∧
      IsFirstEntryAt crowdedText.toList p "a\nb".toList s ∧
      configEntry (String.ofList (p ++ (m ++ "; entry: \"y\"".toList))) = "a\nb" := by
  obtain ⟨htaken, -, hbehind⟩ := configEntry_leftmost crowdedText
  have hvalue : configEntry crowdedText = "a\nb" := by decide +kernel
  obtain ⟨p, s, hfirst⟩ := (htaken "a\nb" (by decide)).1 hvalue
  obtain ⟨m, hm, htext⟩ := hfirst.here
  exact ⟨hvalue, p, m, s, htext, hm, hfirst, (hbehind p m _ s htext hm hfirst _).trans hvalue⟩

end Fingerprint.Detection
