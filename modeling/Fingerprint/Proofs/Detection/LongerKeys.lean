/-
Keys of configuration files that only end in `entry`. An entry is looked for
wherever the word stands, so the tail of a longer key with a value behind it is
taken for an entry. In a text in which the word is nothing but such a tail a
value is found iff a value is given to one of them, and the configuration files
leave unchanged what is known iff an entrypoint was known before or all of them
can be asked for and no tail in them gives a value (`configEntry_tails`).
-/
import Fingerprint.Proofs.Detection.EntryKeys
import Fingerprint.Proofs.Detection.Outcome
import Fingerprint.Toml.Quoted

namespace Fingerprint.Detection

variable {inKey : Char → Prop} {t p v s : List Char}

/-- Whether the word `entry`, in either case, stands in a text only directly behind a character of a
key, as the tail of a longer one. -/
def HoldsOnlyTails (inKey : Char → Prop) (t : List Char) : Prop :=
  ∀ p key s, t = p ++ (key ++ s) → IsEntryWord key → ∃ c, p.getLast? = some c ∧ inKey c

/-- Whether the first entry of a text is the tail of a longer key, with the value `v`. -/
def TailGives (inKey : Char → Prop) (t v : List Char) : Prop :=
  ∃ p c s, inKey c ∧ IsFirstEntryAt t (p ++ [c]) v s

/-- The places of the word are gone through one by one. -/
instance [DecidablePred inKey] : DecidablePred (HoldsOnlyTails inKey) := fun t =>
  decidable_of_iff (∀ n ≤ t.length, (afterWord? "entry".toList (t.drop n)).isSome →
      (t.take n).getLast?.any (fun c => decide (inKey c)) = true) <| by
    simp only [Option.isSome_iff_exists, afterWord?_eq_some_iff, Option.any_eq_true,
      decide_eq_true_eq]
    constructor
    · rintro hall p key s rfl hkey
      simpa using hall p.length (by simp) ⟨s, key, hkey, by simp⟩
    · rintro hall n - ⟨s, key, hkey, hdrop⟩
      exact hall _ key s (by rw [← hdrop, List.take_append_drop]) hkey

/-- In such a text every entry is a tail. -/
theorem HoldsOnlyTails.exists_inKey (h : HoldsOnlyTails inKey t) (hentry : HasEntryAt t p v s) :
    ∃ q c, p = q ++ [c] ∧ inKey c := by
  obtain ⟨m, @⟨key, a, b, sign, hkey, -, -, -, -⟩, rfl⟩ := hentry
  obtain ⟨c, hlast, hc⟩ :=
    h p key (a ++ sign :: (b ++ '"' :: (v ++ ['"'])) ++ s) (by simp) hkey
  obtain ⟨q, rfl⟩ := List.getLast?_eq_some_iff.1 hlast
  exact ⟨q, c, rfl, hc⟩

theorem tailGives_iff (h : HoldsOnlyTails inKey t) :
    TailGives inKey t v ↔ ∃ p s, IsFirstEntryAt t p v s := by
  constructor
  · rintro ⟨p, c, s, -, hfirst⟩
    exact ⟨_, s, hfirst⟩
  · rintro ⟨p, s, hfirst⟩
    obtain ⟨q, c, rfl, hc⟩ := h.exists_inKey hfirst.here
    exact ⟨q, c, s, hc, hfirst⟩

theorem configEntry_eq_iff_tailGives {text value : String} (h : HoldsOnlyTails inKey text.toList)
    (hvalue : value ≠ "") : configEntry text = value ↔ TailGives inKey text.toList value.toList :=
  (configEntry_eq_iff hvalue).trans (tailGives_iff h).symm

theorem configEntry_eq_empty_iff_tailGives {text : String} (h : HoldsOnlyTails inKey text.toList) :
    configEntry text = "" ↔ ∀ v, ¬ TailGives inKey text.toList v := by
  simp only [tailGives_iff h, ← findEntryValue?_eq_some_iff, ← Option.eq_none_iff_forall_ne_some,
    findEntryValue?_eq_none_iff, configEntry_eq_empty_iff]

/-- Offers change nothing iff an entrypoint is known or none of them is one. -/
theorem takeOffers_eq_self_iff {offers : List Offer} {r : Resolution} :
    takeOffers offers r = r ↔ r.entrypoint ≠ "" ∨ ∀ o ∈ offers, o.1 = "" := by
  induction offers with
  | nil => simp [takeOffers]
  | cons o offers ih =>
    by_cases hknown : r.entrypoint = ""
    · by_cases ho : o.1 = ""
      · have hsame : r.withEntrypoint o.1 o.2 = r := by simp [Resolution.withEntrypoint, ho]
        rw [takeOffers_cons, hsame, ih, List.forall_mem_cons]
        simp [ho]
      · have htaken : (r.withEntrypoint o.1 o.2).entrypoint = o.1 := by
          simp [Resolution.withEntrypoint, hknown, ho]
        rw [takeOffers_cons, takeOffers_of_known (by simpa [htaken] using ho),
          List.forall_mem_cons]
        refine iff_of_false (fun hsame => ?_) (by simp [hknown, ho])
        rw [hsame, hknown] at htaken
        exact ho htaken.symm
    · rw [takeOffers_of_known (by simpa using hknown)]
      exact iff_of_true rfl (.inl hknown)

theorem forall_mem_configOffers_iff {s : Snapshot} {root : Path} {names : List String} :
    (∀ o ∈ configOffers s root names, o.1 = "") ↔ ∀ name ∈ names, ∀ text,
      readable? s (root / name) = some text → configEntry text = "" := by
  simp only [configOffers, List.forall_mem_map, List.mem_filterMap, forall_exists_index, and_imp]
  exact ⟨fun h name hname text htext => h text name hname htext,
    fun h text name hname htext => h name hname text htext⟩

/-- Where no entrypoint is known in the end, every configuration file has been asked for. -/
theorem requireShort_of_tryConfigFiles {s : Snapshot} {root : Path} {names : List String}
    {r r' : Resolution} (h : (tryConfigFiles s root names r).outcome = .ok r')
    (hr' : r'.entrypoint = "") : ∀ name ∈ names, s.tree.requireShort (root / name) = .ok () := by
  induction names generalizing r with
  | nil => nofun
  | cons name names ih =>
    rw [outcome_tryConfigFiles_cons] at h
    split at h
    next =>
      obtain ⟨u, hasked, hrest⟩ := bind_ok_iff.1 h
      exact List.forall_mem_cons.2 ⟨hasked, ih hrest⟩
    next hknown =>
      cases h
      exact absurd hr' (by simpa using hknown)

/-- What is known stays iff an entrypoint was known before or no configuration file has one. -/
theorem outcome_tryConfigFiles_eq_self_iff {s : Snapshot} {root : Path} {names : List String}
    {r : Resolution} : (tryConfigFiles s root names r).outcome = .ok r ↔
      r.entrypoint ≠ "" ∨ ∀ name ∈ names, s.tree.requireShort (root / name) = .ok () ∧
        ∀ text, readable? s (root / name) = some text → configEntry text = "" := by
  have hcomes := tryConfigFiles_comesTo s root names r
  constructor
  · intro h
    rw [or_iff_not_imp_left, not_not]
    intro hnone name hname
    have hsame : takeOffers (configOffers s root names) r = r := by
      rcases hcomes with hok | ⟨e, herror, -⟩
      · exact Except.ok.inj (hok.symm.trans h)
      · cases herror.symm.trans h
    have hempty := (takeOffers_eq_self_iff.1 hsame).resolve_left (not_not.2 hnone)
    exact ⟨requireShort_of_tryConfigFiles h hnone name hname,
      forall_mem_configOffers_iff.1 hempty name hname⟩
  · rintro (hknown | hall)
    · cases names with
      | nil => rfl
      | cons name names => rw [outcome_tryConfigFiles_cons, if_neg (by simpa using hknown)]
    · have hempty := forall_mem_configOffers_iff.2 fun name hname => (hall name hname).2
      rw [hcomes.eq_ok (List.forall_mem_map.2 fun name hname => (hall name hname).1),
        takeOffers_eq_self_iff.2 (.inr hempty)]

/-- **The tail of a longer key supplies the entrypoint like a key of its own.** In a text that holds
the word only as such a tail, the value that is taken is that of the first tail to which one is
given, and nothing is taken iff there is none. Configuration files of such texts leave unchanged
what is known iff an entrypoint was known before or all of them can be asked for and no tail in them
gives a value. Any characters may be those of keys. -/
theorem configEntry_tails (inKey : Char → Prop) :
    (∀ text : String, HoldsOnlyTails inKey text.toList →
      (configEntry text = "" ↔ ∀ v, ¬ TailGives inKey text.toList v) ∧
      ∀ value ≠ "", configEntry text = value ↔ TailGives inKey text.toList value.toList) ∧
    ∀ (s : Snapshot) (root : Path) (r : Resolution),
      (∀ name ∈ configFiles, ∀ text, readable? s (root / name) = some text →
        HoldsOnlyTails inKey text.toList) →
      ((tryConfigFiles s root configFiles r).outcome = .ok r ↔
        r.entrypoint ≠ "" ∨ ∀ name ∈ configFiles, s.tree.requireShort (root / name) = .ok () ∧
          ∀ text, readable? s (root / name) = some text → ∀ v, ¬ TailGives inKey text.toList v) := by
  refine ⟨fun text h => ⟨configEntry_eq_empty_iff_tailGives h,
    fun value => configEntry_eq_iff_tailGives h⟩, fun s root r h => ?_⟩
  rw [outcome_tryConfigFiles_eq_self_iff]
  refine or_congr_right (forall₂_congr fun name hname => and_congr_right fun _ =>
    forall₂_congr fun text htext => ?_)
  exact configEntry_eq_empty_iff_tailGives (h name hname text htext)

/-- A text with a value given to a longer key. -/
def longerKeyText : String := "data_entry = \"x.py\""

/-- A directory with this text in its second configuration file. -/
def longerKeySnapshot : Snapshot where
  tree := { entries := Table.ofList [([".config.toml"], .file longerKeyText.toUTF8.toList)] }

theorem holdsOnlyTails_longerKeySnapshot : ∀ name ∈ configFiles, ∀ text,
    readable? longerKeySnapshot (Path.here / name) = some text →
      HoldsOnlyTails (Toml.isBareChar · = true) text.toList := by
  have hnone : readable? longerKeySnapshot (Path.here / ".config.ts") = none := by decide +kernel
  have hsome : readable? longerKeySnapshot (Path.here / ".config.toml") = some longerKeyText := by
    decide +kernel
  intro name hname text htext
  simp only [configFiles, List.mem_cons, List.not_mem_nil, or_false] at hname
  obtain rfl | rfl := hname
  · cases hnone.symm.trans htext
  · cases hsome.symm.trans htext
    decide +kernel

/-- The tail gives its value, and the files make that the entrypoint, unless one is known. -/
theorem configEntry_tails_longerKey :
    TailGives (Toml.isBareChar · = true) longerKeyText.toList "x.py".toList ∧
    (tryConfigFiles longerKeySnapshot Path.here configFiles {}).outcome ≠ .ok {} ∧
    (tryConfigFiles longerKeySnapshot Path.here configFiles ⟨none, "main.go", false, ∅⟩).outcome =
      .ok ⟨none, "main.go", false, ∅⟩ := by
  obtain ⟨htexts, hfiles⟩ := configEntry_tails (Toml.isBareChar · = true)
  have hread : readable? longerKeySnapshot (Path.here / ".config.toml") = some longerKeyText := by
    decide +kernel
  have hgives : TailGives (Toml.isBareChar · = true) longerKeyText.toList "x.py".toList :=
    ((htexts longerKeyText (by decide +kernel)).2 "x.py" (by decide)).1 (by decide +kernel)
  have hchange := hfiles longerKeySnapshot Path.here {} holdsOnlyTails_longerKeySnapshot
  have hkeep := hfiles longerKeySnapshot Path.here ⟨none, "main.go", false, ∅⟩
    holdsOnlyTails_longerKeySnapshot
  refine ⟨hgives, fun hsame => ?_, hkeep.2 (.inl (by decide))⟩
  obtain hknown | hnone := hchange.1 hsame
  · exact hknown rfl
  · exact (hnone ".config.toml" (by decide)).2 longerKeyText hread _ hgives

/-- The word stands in that text as a tail and nowhere else, and yet its value is taken, and the
configuration files make it the entrypoint of a project. -/
theorem configEntry_longerKeyText :
    HoldsOnlyTails (Toml.isBareChar · = true) longerKeyText.toList ∧
    configEntry longerKeyText = "x.py" ∧
    (tryConfigFiles longerKeySnapshot Path.here configFiles {}).outcome =
      .ok ⟨none, "x.py", true, ∅⟩ := by
  decide +kernel

end Fingerprint.Detection
