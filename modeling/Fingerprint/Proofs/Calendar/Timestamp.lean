/-
What a timestamp tells. A moment denotes an instant: its date is counted off
day by day from the start of year 1, and its clock is ahead of universal time
(`Denotes`). The universal date and time of an instant are the ones that denote
it (`universal?_eq_some_iff`), so a timestamp spells the universal time of the
instant of its moment, whatever the offset, and there is none if the instant
does not lie in the years 1 to 9999 (`timestamp?_of_instant`).
-/
import Fingerprint.Calendar.Moment
import Fingerprint.Proofs.Calendar.Days
import Fingerprint.Proofs.Toml.Scalar

namespace Fingerprint.Calendar

open Text Decimal

namespace TimeOfDay

/-- Whether a clock shows the time. -/
structure InDay (t : TimeOfDay) : Prop where
  hour : t.hour < 24
  minute : t.minute < 60
  second : t.second < 60
  micros : t.micros < 1000000

variable {t : TimeOfDay} {micros : Nat}

theorem sinceMidnight_lt (h : t.InDay) : t.sinceMidnight < microsPerDay := by
  obtain ⟨hh, hm, hs, hfraction⟩ := h
  simp only [sinceMidnight, microsPerDay]
  omega

theorem inDay_after (micros : Nat) : (after micros).InDay :=
  ⟨Nat.mod_lt _ (by decide), Nat.mod_lt _ (by decide), Nat.mod_lt _ (by decide),
    Nat.mod_lt _ (by decide)⟩

theorem sinceMidnight_after (h : micros < microsPerDay) : (after micros).sinceMidnight = micros := by
  simp only [microsPerDay] at h
  simp only [sinceMidnight, after]
  omega

/-- A time of day is that of the microseconds since midnight. -/
theorem after_sinceMidnight (h : t.InDay) : after t.sinceMidnight = t := by
  obtain ⟨hour, minute, second, micros⟩ := t
  obtain ⟨hh, hm, hs, hfraction⟩ := h
  simp only at hh hm hs hfraction
  simp only [after, sinceMidnight, mk.injEq]
  refine ⟨?_, ?_, ?_, ?_⟩ <;> omega

end TimeOfDay

theorem daysBeforeYear_le {y y' : Nat} (hy : 1 ≤ y) (h : y ≤ y') :
    daysBeforeYear y ≤ daysBeforeYear y' := by
  induction y', h using Nat.le_induction with
  | base => exact Nat.le_refl _
  | succ y' hle ih =>
    rw [daysBeforeYear_succ (Nat.le_trans hy hle)]
    exact Nat.le_trans ih (Nat.le_add_right _ _)

theorem lastDayNumber_eq : lastDayNumber = daysBeforeYear 10000 := by decide

/-- The last day number is that of the last day of year 9999. -/
theorem Date.year_le_iff {d : Date} (h : d.InCalendar) :
    d.year ≤ 9999 ↔ d.dayNumber ≤ lastDayNumber := by
  obtain ⟨hy, ⟨hm, hm'⟩, hd, hd'⟩ := h
  rw [lastDayNumber_eq]
  constructor
  · intro hyear
    have hbound : daysBeforeYear (d.year + 1) ≤ daysBeforeYear 10000 :=
      daysBeforeYear_le (Nat.le_add_left 1 d.year) (Nat.succ_le_succ hyear)
    have hwithin := daysBeforeMonth_add_le d.year hm hm'
    rw [daysBeforeYear_succ hy] at hbound
    simp only [dayNumber]
    omega
  · intro hnumber
    by_contra hyear
    have hbound := daysBeforeYear_le (y := 10000) (by decide) (Nat.not_le.1 hyear)
    simp only [dayNumber] at hnumber
    omega

namespace Moment

/-- Whether a moment can be given: its date and time exist, and its clock is less than a day ahead
of universal time or behind it. -/
structure IsValid (m : Moment) : Prop where
  date : m.date.isValid = true
  time : m.time.InDay
  offset : -(microsPerDay : Int) < m.offset ∧ m.offset < microsPerDay

/-- Whether a moment is given in universal time. -/
structure IsUniversal (m : Moment) : Prop extends IsValid m where
  universal : m.offset = 0

/-- Whether a moment is so many microseconds after the start of year 1 in universal time. -/
def Denotes (m : Moment) (instant : Int) : Prop :=
  ∃ days : Nat, Date.afterDays days = m.date ∧
    instant = days * microsPerDay + m.time.sinceMidnight - m.offset

variable {m u : Moment} {instant : Int}

/-- **A moment denotes one instant**, which is computed from the number of its day. -/
theorem denotes_iff (h : m.date.InCalendar) : m.Denotes instant ↔ instant = m.instant := by
  constructor
  · rintro ⟨days, hdays, rfl⟩
    have hnumber := Date.dayNumber_afterDays days
    rw [hdays] at hnumber
    rw [Moment.instant, hnumber, Int.natCast_add, Int.natCast_one, Int.add_sub_cancel]
  · rintro rfl
    obtain ⟨days, hnumber⟩ := Nat.exists_eq_add_of_le' (Date.dayNumber_pos h)
    refine ⟨days, Date.afterDays_of_dayNumber h hnumber, ?_⟩
    rw [Moment.instant, hnumber, Int.natCast_add, Int.natCast_one, Int.add_sub_cancel]

theorem IsValid.inCalendar (h : m.IsValid) : m.date.InCalendar := (Date.isValid_iff.1 h.date).1

end Moment

/-- **The universal date and time of an instant are the ones that denote it**; there are none outside
the years 1 to 9999. -/
theorem universal?_eq_some_iff {instant : Int} {d : Date} {t : TimeOfDay} :
    universal? instant = some (d, t) ↔
      (⟨d, t, 0⟩ : Moment).IsUniversal ∧ (⟨d, t, 0⟩ : Moment).Denotes instant := by
  have hpos : 0 < microsPerDay := by decide
  have hzero : -(microsPerDay : Int) < 0 ∧ (0 : Int) < microsPerDay := by decide
  have hlimit : ∀ days, (Date.afterDays days).year ≤ 9999 ↔ ¬ lastDayNumber < days + 1 := fun days => by
    rw [Date.year_le_iff (Date.inCalendar_afterDays days), Date.dayNumber_afterDays, Nat.not_lt]
  unfold universal?
  split
  next hbefore =>
    refine ⟨nofun, ?_⟩
    rintro ⟨-, days, -, rfl⟩
    rw [Int.sub_zero] at hbefore
    have hnonneg : (0 : Int) ≤ days * microsPerDay + t.sinceMidnight := by
      exact_mod_cast Nat.zero_le (days * microsPerDay + t.sinceMidnight)
    exact absurd hbefore (Int.not_lt.2 hnonneg)
  next hafter =>
    obtain ⟨n, rfl⟩ := Int.eq_ofNat_of_zero_le (Int.not_lt.1 hafter)
    simp only [Int.toNat_natCast, Date.ofDayNumber_eq_afterDays]
    constructor
    · intro h
      split at h
      next => cases h
      next hlast =>
        cases h
        have hmod : n % microsPerDay < microsPerDay := Nat.mod_lt _ hpos
        refine ⟨.mk ⟨?_, TimeOfDay.inDay_after _, hzero⟩ rfl, n / microsPerDay, rfl, ?_⟩
        · exact Date.isValid_iff.2 ⟨Date.inCalendar_afterDays _, (hlimit _).2 hlast⟩
        · rw [TimeOfDay.sinceMidnight_after hmod, Int.sub_zero]
          exact_mod_cast (Nat.div_add_mod' n microsPerDay).symm
    · rintro ⟨⟨⟨hdate, htime, -⟩, -⟩, days, hdays, hn⟩
      have hlt := TimeOfDay.sinceMidnight_lt htime
      have hsplit : n = days * microsPerDay + t.sinceMidnight := by
        rw [Int.sub_zero] at hn
        exact_mod_cast hn
      have hday : n / microsPerDay = days := by
        rw [hsplit, Nat.mul_comm, Nat.mul_add_div hpos, Nat.div_eq_of_lt hlt, Nat.add_zero]
      have hrest : n % microsPerDay = t.sinceMidnight := by
        rw [hsplit, Nat.mul_add_mod', Nat.mod_eq_of_lt hlt]
      have hdays : Date.afterDays days = d := hdays
      have hyear : (Date.afterDays days).year ≤ 9999 := hdays ▸ (Date.isValid_iff.1 hdate).2
      rw [hday, hrest, if_neg ((hlimit days).1 hyear), hdays, TimeOfDay.after_sinceMidnight htime]

/-- Whether characters are decimal digits, at least one, that spell a number. -/
def Spells (s : List Char) (n : Nat) : Prop :=
  s ≠ [] ∧ ∃ ds, s.mapM asciiDigit? = some ds ∧ ofDigits 10 ds = n

/-- Whether characters are two decimal digits that spell a number. -/
def SpellsTwo (s : List Char) (n : Nat) : Prop := s.length = 2 ∧ Spells s n

/-- Whether a text spells a date and a time down to the second. -/
def IsTimestamp (text : String) (d : Date) (t : TimeOfDay) : Prop :=
  ∃ year month day hour minute second : List Char,
    text.toList = year ++ '-' :: month ++ '-' :: day ++ 'T' :: hour ++ ':' :: minute
      ++ ':' :: second ++ ['Z'] ∧
    Spells year d.year ∧ SpellsTwo month d.month ∧ SpellsTwo day d.day ∧
    SpellsTwo hour t.hour ∧ SpellsTwo minute t.minute ∧ SpellsTwo second t.second

theorem spells_natText (n : Nat) : Spells (natText n) n := by
  refine ⟨?_, Toml.digitValues (natText n), ?_, Toml.ofDigits_natText n⟩
  · exact Nat.toDigits_ne_nil
  · exact Toml.mapM_asciiDigit? fun c => Toml.isDigit_of_mem_natText

theorem spellsTwo_twoDigits {n : Nat} (h : n < 100) : SpellsTwo (twoDigits n) n := by
  have hall : ∀ n < 100, (twoDigits n).length = 2 ∧
      (twoDigits n).mapM asciiDigit? = some [n / 10, n % 10] := by decide +kernel
  obtain ⟨hlength, hdigits⟩ := hall n h
  refine ⟨hlength, ?_, _, hdigits, ?_⟩
  · rintro hnil
    rw [hnil] at hlength
    cases hlength
  · simp only [ofDigits, List.foldl_cons, List.foldl_nil]
    omega

theorem isTimestamp_of_universal {d : Date} {t : TimeOfDay} (hd : d.InCalendar) (ht : t.InDay) :
    IsTimestamp (String.ofList (natText d.year ++ '-' :: twoDigits d.month ++ '-' :: twoDigits d.day
      ++ 'T' :: twoDigits t.hour ++ ':' :: twoDigits t.minute ++ ':' :: twoDigits t.second
      ++ ['Z'])) d t := by
  have hmonth := hd.month.2
  have hday := Nat.le_trans hd.day.2 (monthLength_bounds d.year hd.month.1 hd.month.2).2
  obtain ⟨hh, hm, hs, -⟩ := ht
  exact ⟨_, _, _, _, _, _, String.toList_ofList, spells_natText _, spellsTwo_twoDigits (by omega),
    spellsTwo_twoDigits (by omega), spellsTwo_twoDigits (by omega), spellsTwo_twoDigits (by omega),
    spellsTwo_twoDigits (by omega)⟩

/-- **A timestamp tells the instant.** A moment denotes one instant. If it is that of a moment of
universal time, in the years 1 to 9999, the timestamp spells the date and time of that moment, with
the fraction of a second dropped; if there is no such moment, there is no timestamp. Moments that
denote the same instant have the same timestamp, whatever their offsets. -/
theorem timestamp?_of_instant {m : Moment} (hm : m.IsValid) :
    ∃ instant, (∀ i, m.Denotes i ↔ i = instant) ∧
      (∀ u : Moment, u.IsUniversal → u.Denotes instant →
        ∃ text, m.timestamp? = some text ∧ IsTimestamp text u.date u.time) ∧
      ((∀ u : Moment, u.IsUniversal → ¬ u.Denotes instant) → m.timestamp? = none) ∧
      ∀ m' : Moment, m'.IsValid → m'.Denotes instant → m'.timestamp? = m.timestamp? := by
  refine ⟨m.instant, fun i => Moment.denotes_iff hm.inCalendar, ?_, ?_, ?_⟩
  · rintro ⟨d, t, offset⟩ hu hdenotes
    cases hu.universal
    refine ⟨_, ?_, isTimestamp_of_universal hu.inCalendar hu.time⟩
    rw [Moment.timestamp?, universal?_eq_some_iff.2 ⟨hu, hdenotes⟩]
    rfl
  · intro hnone
    cases hu : universal? m.instant with
    | none => rw [Moment.timestamp?, hu]; rfl
    | some u =>
      obtain ⟨huniversal, hdenotes⟩ := universal?_eq_some_iff.1 hu
      exact absurd hdenotes (hnone _ huniversal)
  · intro m' hm' hdenotes
    rw [Moment.timestamp?, Moment.timestamp?, (Moment.denotes_iff hm'.inCalendar).1 hdenotes]

/-- A clock behind universal time shows the end of a leap day when March has begun, and the first
moment of year 1 on a clock ahead of it lies before the calendar. -/
theorem timestamp?_acrossDays :
    (∃ text, Moment.timestamp? ⟨⟨2024, 2, 29⟩, ⟨23, 59, 59, 999999⟩, -1815000000⟩ = some text ∧
      IsTimestamp text ⟨2024, 3, 1⟩ ⟨0, 30, 14, 999999⟩) ∧
    Moment.timestamp? ⟨⟨2024, 3, 1⟩, ⟨5, 30, 14, 999999⟩, 18000000000⟩ =
      Moment.timestamp? ⟨⟨2024, 2, 29⟩, ⟨23, 59, 59, 999999⟩, -1815000000⟩ ∧
    Moment.timestamp? ⟨⟨1, 1, 1⟩, ⟨0, 0, 0, 0⟩, 1⟩ = none := by
  have hbehind : (⟨⟨2024, 2, 29⟩, ⟨23, 59, 59, 999999⟩, -1815000000⟩ : Moment).IsValid :=
    ⟨by decide, ⟨by decide, by decide, by decide, by decide⟩, by decide⟩
  have hahead : (⟨⟨2024, 3, 1⟩, ⟨5, 30, 14, 999999⟩, 18000000000⟩ : Moment).IsValid :=
    ⟨by decide, ⟨by decide, by decide, by decide, by decide⟩, by decide⟩
  have huniversal : (⟨⟨2024, 3, 1⟩, ⟨0, 30, 14, 999999⟩, 0⟩ : Moment).IsUniversal :=
    ⟨⟨by decide, ⟨by decide, by decide, by decide, by decide⟩, by decide⟩, rfl⟩
  have hfirst : (⟨⟨1, 1, 1⟩, ⟨0, 0, 0, 0⟩, 1⟩ : Moment).IsValid :=
    ⟨by decide, ⟨by decide, by decide, by decide, by decide⟩, by decide⟩
  obtain ⟨instant, hbehindAt, hspells, -, halike⟩ := timestamp?_of_instant hbehind
  obtain ⟨start, hfirstAt, -, hnone, -⟩ := timestamp?_of_instant hfirst
  have hinstant := (hbehindAt _).1 ((Moment.denotes_iff hbehind.inCalendar).2 rfl)
  have hstart := (hfirstAt _).1 ((Moment.denotes_iff hfirst.inCalendar).2 rfl)
  refine ⟨hspells _ huniversal ?_, halike _ hahead ?_, hnone fun ⟨d, t, offset⟩ hu hdenotes => ?_⟩
  · exact (Moment.denotes_iff huniversal.inCalendar).2 (hinstant.symm.trans (by decide))
  · exact (Moment.denotes_iff hahead.inCalendar).2 (hinstant.symm.trans (by decide))
  · cases hu.universal
    have hsome := universal?_eq_some_iff.2 ⟨hu, hdenotes⟩
    have hbefore : universal? start = none := hstart ▸ by decide
    rw [hbefore] at hsome
    cases hsome

end Fingerprint.Calendar
