/-
Dates counted day by day. The calendar is said by what follows a date
(`Date.next`); day numbers count these steps from the first of January of year
1 (`dayNumber_next`), every date of the calendar is reached by them
(`afterDays_of_dayNumber`), and the date of a day number is the one that they
reach (`ofDayNumber_eq_afterDays`).
-/
import Mathlib.Algebra.BigOperators.Group.List.Basic
import Mathlib.Algebra.GroupWithZero.Nat
import Fingerprint.Calendar.Date

namespace Fingerprint.Calendar

/-- The length of a month. -/
def monthLength (y m : Nat) : Nat := (monthLengths y).getD (m - 1) 0

/-- The length of a year. -/
def yearLength (y : Nat) : Nat := if isLeapYear y then 366 else 365

theorem sum_monthLengths (y : Nat) : (monthLengths y).sum = yearLength y := by
  unfold monthLengths yearLength
  split <;> rfl

/-- December has 31 days, whatever the year. -/
theorem daysBeforeMonth_last (y : Nat) : daysBeforeMonth y 12 + 31 = yearLength y := by
  unfold daysBeforeMonth monthLengths yearLength
  split <;> rfl

theorem monthLength_last (y : Nat) : monthLength y 12 = 31 := rfl

theorem bounds_of_mem_monthLengths {y k : Nat} (h : k ∈ monthLengths y) : 1 ≤ k ∧ k ≤ 31 := by
  simp only [monthLengths, List.mem_cons, List.not_mem_nil, or_false] at h
  split at h <;> omega

theorem getD_monthLengths (y : Nat) {i : Nat} (hi : i < (monthLengths y).length) :
    (monthLengths y).getD i 0 = (monthLengths y)[i] := by
  simp [List.getD, hi]

theorem monthLength_bounds (y : Nat) {m : Nat} (hm : 1 ≤ m) (hm' : m ≤ 12) :
    1 ≤ monthLength y m ∧ monthLength y m ≤ 31 := by
  obtain ⟨i, rfl⟩ := Nat.exists_eq_add_of_le' hm
  show 1 ≤ (monthLengths y).getD i 0 ∧ (monthLengths y).getD i 0 ≤ 31
  rw [getD_monthLengths y hm']
  exact bounds_of_mem_monthLengths (List.getElem_mem _)

theorem daysBeforeMonth_succ (y : Nat) {m : Nat} (hm : 1 ≤ m) (hm' : m ≤ 12) :
    daysBeforeMonth y (m + 1) = daysBeforeMonth y m + monthLength y m := by
  obtain ⟨i, rfl⟩ := Nat.exists_eq_add_of_le' hm
  show ((monthLengths y).take (i + 1)).sum = ((monthLengths y).take i).sum + (monthLengths y).getD i 0
  rw [List.sum_take_succ _ _ hm', getD_monthLengths y hm']

theorem daysBeforeMonth_add_le (y : Nat) {m : Nat} (hm : 1 ≤ m) (hm' : m ≤ 12) :
    daysBeforeMonth y m + monthLength y m ≤ yearLength y := by
  rw [← daysBeforeMonth_succ y hm hm', ← sum_monthLengths, ← List.sum_take_add_sum_drop _ m]
  exact Nat.le_add_right _ _

theorem daysBeforeYear_spans (a : Nat) {b c d : Nat} (hb : b ≤ 3) (hc : c ≤ 24) (hd : d ≤ 3) :
    daysBeforeYear (a * 400 + b * 100 + c * 4 + d + 1) =
      146097 * a + 36524 * b + 1461 * c + 365 * d := by
  have hfour : (a * 400 + b * 100 + c * 4 + d) / 4 = 100 * a + 25 * b + c := by omega
  have hhundred : (a * 400 + b * 100 + c * 4 + d) / 100 = 4 * a + b := by omega
  have hfourHundred : (a * 400 + b * 100 + c * 4 + d) / 400 = a := by omega
  show (a * 400 + b * 100 + c * 4 + d) * 365 + (a * 400 + b * 100 + c * 4 + d) / 4
    - (a * 400 + b * 100 + c * 4 + d) / 100 + (a * 400 + b * 100 + c * 4 + d) / 400 = _
  rw [hfour, hhundred, hfourHundred]
  omega

/-- A leap day falls in every fourth year, but not in every hundredth, and yet in every four hundredth. -/
theorem yearLength_add (y : Nat) : yearLength y + (if 100 ∣ y then 1 else 0) =
    365 + (if 4 ∣ y then 1 else 0) + if 400 ∣ y then 1 else 0 := by
  have hhundred : 100 ∣ y → 4 ∣ y := Nat.dvd_trans (by decide)
  have hfourHundred : 400 ∣ y → 100 ∣ y := Nat.dvd_trans (by decide)
  by_cases h400 : 400 ∣ y
  · simp [yearLength, isLeapYear, ← Nat.dvd_iff_mod_eq_zero, h400, hfourHundred h400,
      hhundred (hfourHundred h400)]
  · by_cases h100 : 100 ∣ y
    · simp [yearLength, isLeapYear, ← Nat.dvd_iff_mod_eq_zero, h400, h100, hhundred h100, bne]
    · by_cases h4 : 4 ∣ y <;>
        simp [yearLength, isLeapYear, ← Nat.dvd_iff_mod_eq_zero, h400, h100, h4, bne]

theorem daysBeforeYear_succ {y : Nat} (hy : 1 ≤ y) :
    daysBeforeYear (y + 1) = daysBeforeYear y + yearLength y := by
  obtain ⟨p, rfl⟩ := Nat.exists_eq_add_of_le' hy
  have hlength := yearLength_add (p + 1)
  have hless : p / 100 ≤ p / 4 := Nat.div_le_div_left (by decide) (by decide)
  have hone : (if 100 ∣ p + 1 then 1 else 0) ≤ 1 := by split <;> decide
  show (p + 1) * 365 + (p + 1) / 4 - (p + 1) / 100 + (p + 1) / 400 =
    p * 365 + p / 4 - p / 100 + p / 400 + yearLength (p + 1)
  rw [Nat.succ_div, Nat.succ_div, Nat.succ_div]
  omega

namespace Date

/-- Whether a date is one of the calendar, from year 1 on. -/
structure InCalendar (d : Date) : Prop where
  year : 1 ≤ d.year
  month : 1 ≤ d.month ∧ d.month ≤ 12
  day : 1 ≤ d.day ∧ d.day ≤ monthLength d.year d.month

/-- The day after a date. -/
def next (d : Date) : Date :=
  if d.day < monthLength d.year d.month then ⟨d.year, d.month, d.day + 1⟩
  else if d.month < 12 then ⟨d.year, d.month + 1, 1⟩
  else ⟨d.year + 1, 1, 1⟩

/-- The date so many days after the first of January of year 1. -/
def afterDays : Nat → Date
  | 0 => ⟨1, 1, 1⟩
  | n + 1 => (afterDays n).next

variable {d : Date} {n y m k : Nat}

theorem inCalendar_mk (hy : 1 ≤ y) (hm : 1 ≤ m) (hm' : m ≤ 12) (hk : 1 ≤ k)
    (hk' : k ≤ monthLength y m) : (⟨y, m, k⟩ : Date).InCalendar := ⟨hy, ⟨hm, hm'⟩, hk, hk'⟩

theorem isValid_iff : d.isValid = true ↔ d.InCalendar ∧ d.year ≤ 9999 := by
  rw [isValid, Bool.and_eq_true, decide_eq_true_eq, decide_eq_true_eq]
  constructor
  · rintro ⟨⟨hy, hy', hm, hm', hd⟩, hd'⟩
    exact ⟨⟨hy, ⟨hm, hm'⟩, hd, hd'⟩, hy'⟩
  · rintro ⟨⟨hy, ⟨hm, hm'⟩, hd, hd'⟩, hy'⟩
    exact ⟨⟨hy, hy', hm, hm', hd⟩, hd'⟩

theorem InCalendar.next (h : d.InCalendar) : d.next.InCalendar := by
  obtain ⟨hy, ⟨hm, hm'⟩, -, -⟩ := h
  unfold Date.next
  split
  next hday => exact inCalendar_mk hy hm hm' (Nat.le_add_left 1 _) hday
  next =>
    split
    next hmonth =>
      have hm : 1 ≤ d.month + 1 := Nat.le_add_left 1 _
      exact inCalendar_mk hy hm hmonth (Nat.le_refl 1) (monthLength_bounds d.year hm hmonth).1
    next =>
      have hy : 1 ≤ d.year + 1 := Nat.le_add_left 1 _
      exact inCalendar_mk hy (Nat.le_refl 1) (by decide) (Nat.le_refl 1)
        (monthLength_bounds (d.year + 1) (Nat.le_refl 1) (by decide)).1

/-- **Day numbers count the days**: that of the next day is one more. -/
theorem dayNumber_next (h : d.InCalendar) : d.next.dayNumber = d.dayNumber + 1 := by
  obtain ⟨hy, ⟨hm, hm'⟩, hd, hd'⟩ := h
  unfold Date.next
  split
  next => simp only [dayNumber, Nat.add_assoc]
  next hlast =>
    have hday : d.day = monthLength d.year d.month := Nat.le_antisymm hd' (Nat.not_lt.1 hlast)
    split
    next => simp only [dayNumber, daysBeforeMonth_succ d.year hm hm', hday, Nat.add_assoc]
    next hmonth =>
      have hmonth : d.month = 12 := Nat.le_antisymm hm' (Nat.not_lt.1 hmonth)
      have hyear := daysBeforeMonth_last d.year
      have hfirst : daysBeforeMonth (d.year + 1) 1 = 0 := rfl
      simp only [dayNumber, daysBeforeYear_succ hy, hday, hmonth, monthLength_last, hfirst]
      omega

theorem dayNumber_pos (h : d.InCalendar) : 1 ≤ d.dayNumber :=
  Nat.le_trans h.day.1 (Nat.le_add_left _ _)

theorem inCalendar_last (hy : 1 ≤ y) : (⟨y, 12, 31⟩ : Date).InCalendar :=
  inCalendar_mk hy (by decide) (Nat.le_refl 12) (by decide) (Nat.le_of_eq (monthLength_last y).symm)

theorem exists_before (h : d.InCalendar) : d = ⟨1, 1, 1⟩ ∨ ∃ e : Date, e.InCalendar ∧ e.next = d := by
  obtain ⟨y, m, k⟩ := d
  obtain ⟨hy, ⟨hm, hm'⟩, hk, hk'⟩ := h
  simp only at hy hm hm' hk hk'
  by_cases hday : k = 1
  · subst hday
    by_cases hmonth : m = 1
    · subst hmonth
      by_cases hyear : y = 1
      · exact .inl (by rw [hyear])
      · refine .inr ⟨⟨y - 1, 12, 31⟩, inCalendar_last (by omega), ?_⟩
        simp only [Date.next, monthLength_last, Nat.lt_irrefl, if_false, Nat.sub_add_cancel hy]
    · have hbefore : 1 ≤ m - 1 ∧ m - 1 < 12 := by omega
      have hlength := (monthLength_bounds y hbefore.1 (Nat.le_of_lt hbefore.2)).1
      refine .inr ⟨⟨y, m - 1, monthLength y (m - 1)⟩, ?_, ?_⟩
      · exact inCalendar_mk hy hbefore.1 (Nat.le_of_lt hbefore.2) hlength (Nat.le_refl _)
      · simp only [Date.next, Nat.lt_irrefl, if_false, hbefore.2, if_true, Nat.sub_add_cancel hm]
  · have hbefore : 1 ≤ k - 1 ∧ k - 1 < monthLength y m := by omega
    refine .inr ⟨⟨y, m, k - 1⟩, ?_, ?_⟩
    · exact inCalendar_mk hy hm hm' hbefore.1 (Nat.le_of_lt hbefore.2)
    · simp only [Date.next, hbefore.2, if_true, Nat.sub_add_cancel hk]

theorem inCalendar_first : (⟨1, 1, 1⟩ : Date).InCalendar :=
  inCalendar_mk (by decide) (by decide) (by decide) (by decide) (by decide)

theorem dayNumber_first : (⟨1, 1, 1⟩ : Date).dayNumber = 1 := by decide

theorem inCalendar_afterDays (n : Nat) : (afterDays n).InCalendar := by
  induction n with
  | zero => exact inCalendar_first
  | succ n ih => exact ih.next

theorem dayNumber_afterDays (n : Nat) : (afterDays n).dayNumber = n + 1 := by
  induction n with
  | zero => exact dayNumber_first
  | succ n ih => rw [afterDays, dayNumber_next (inCalendar_afterDays n), ih]

/-- **Every date of the calendar is reached**, after as many days as its number says. -/
theorem afterDays_of_dayNumber (h : d.InCalendar) (hn : d.dayNumber = n + 1) : afterDays n = d := by
  induction n generalizing d with
  | zero =>
    rcases exists_before h with rfl | ⟨e, he, rfl⟩
    · rfl
    · have hpos := dayNumber_pos he
      rw [dayNumber_next he] at hn
      omega
  | succ n ih =>
    rcases exists_before h with rfl | ⟨e, he, rfl⟩
    · rw [dayNumber_first] at hn
      omega
    · rw [dayNumber_next he] at hn
      rw [afterDays, ih he (Nat.succ.inj hn)]

/-- Taking months off a count of days ends in the month in which the count falls. -/
theorem inMonths_eq (y m rest : Nat) (ns : List Nat) (h : rest < ns.sum) :
    ∃ i, i < ns.length ∧ (ns.take i).sum ≤ rest ∧ rest < (ns.take i).sum + ns.getD i 0 ∧
      inMonths y m ns rest = ⟨y, m + i, rest - (ns.take i).sum + 1⟩ := by
  induction ns generalizing m rest with
  | nil => cases h
  | cons k ns ih =>
    rw [inMonths]
    split
    next hhere => exact ⟨0, Nat.zero_lt_succ _, Nat.zero_le _, by simpa using hhere, rfl⟩
    next hlater =>
      rw [List.sum_cons] at h
      obtain ⟨i, hi, hlow, hhigh, heq⟩ := ih (m + 1) (rest - k) (by omega)
      refine ⟨i + 1, Nat.succ_lt_succ hi, ?_, ?_, ?_⟩
      · rw [List.take_succ_cons, List.sum_cons]
        omega
      · rw [List.take_succ_cons, List.sum_cons, List.getD_cons_succ]
        omega
      · rw [heq, List.take_succ_cons, List.sum_cons, Nat.sub_sub, Nat.add_right_comm m 1 i,
          Nat.add_assoc m i 1]

theorem inMonths_monthLengths {rest : Nat} (hy : 1 ≤ y) (h : rest < yearLength y) :
    (inMonths y 1 (monthLengths y) rest).InCalendar ∧
      (inMonths y 1 (monthLengths y) rest).dayNumber = daysBeforeYear y + rest + 1 := by
  rw [← sum_monthLengths] at h
  obtain ⟨i, hi, hlow, hhigh, heq⟩ := inMonths_eq y 1 rest (monthLengths y) h
  have hmonth : 1 + i ≤ 12 := by
    have hlength : (monthLengths y).length = 12 := rfl
    omega
  have hhere : monthLength y (1 + i) = (monthLengths y).getD i 0 := by
    rw [monthLength, Nat.add_sub_cancel_left]
  have hbefore : daysBeforeMonth y (1 + i) = ((monthLengths y).take i).sum := by
    rw [daysBeforeMonth, Nat.add_sub_cancel_left]
    rfl
  rw [heq]
  refine ⟨inCalendar_mk hy (Nat.le_add_right 1 i) hmonth (Nat.le_add_left 1 _) (by omega), ?_⟩
  simp only [dayNumber, hbefore]
  omega

theorem dayNumber_last (hy : 1 ≤ y) : (⟨y, 12, 31⟩ : Date).dayNumber = daysBeforeYear (y + 1) := by
  have hyear := daysBeforeMonth_last y
  simp only [daysBeforeYear_succ hy, dayNumber]
  omega

/-- **The date of a day number has this number.** The spans of 400, 100 and 4 years and of one year
are taken off; a fifth hundred or a fifth year would only hold the last day of a leap year. -/
theorem dayNumber_ofDayNumber (n : Nat) :
    (ofDayNumber (n + 1)).InCalendar ∧ (ofDayNumber (n + 1)).dayNumber = n + 1 := by
  unfold ofDayNumber
  simp only [Nat.add_sub_cancel]
  generalize ha : n / 146097 = a
  generalize hb : n % 146097 / 36524 = b
  generalize hc : n % 146097 % 36524 / 1461 = c
  generalize hd : n % 146097 % 36524 % 1461 / 365 = d
  generalize hr : n % 146097 % 36524 % 1461 % 365 = rest
  have hsplit : n = 146097 * a + 36524 * b + 1461 * c + 365 * d + rest := by omega
  have hbounds : b ≤ 4 ∧ c ≤ 24 ∧ d ≤ 4 ∧ rest < 365 := by omega
  split
  next hlast =>
    have hy : 1 ≤ a * 400 + b * 100 + c * 4 + d := by omega
    refine ⟨inCalendar_last hy, (dayNumber_last hy).trans ?_⟩
    rcases hlast with rfl | rfl
    · have hspans := daysBeforeYear_spans a (b := b) (c := c + 1) (d := 0) (by omega) (by omega)
        (by omega)
      rw [Nat.add_mul, Nat.one_mul, ← Nat.add_assoc, Nat.add_zero] at hspans
      rw [hspans]
      omega
    · have hrest : c = 0 ∧ d = 0 ∧ rest = 0 := by omega
      obtain ⟨rfl, rfl, rfl⟩ := hrest
      have hspans := daysBeforeYear_spans (a + 1) (b := 0) (c := 0) (d := 0) (by omega) (by omega)
        (by omega)
      simp only [Nat.add_mul, Nat.one_mul, Nat.zero_mul, Nat.add_zero] at hspans ⊢
      rw [hspans]
      omega
  next hinside =>
    have hy : 1 ≤ a * 400 + b * 100 + c * 4 + d + 1 := Nat.le_add_left 1 _
    have hlength : rest < yearLength (a * 400 + b * 100 + c * 4 + d + 1) := by
      unfold yearLength
      split <;> omega
    obtain ⟨hin, hnumber⟩ := inMonths_monthLengths hy hlength
    refine ⟨hin, ?_⟩
    rw [hnumber, daysBeforeYear_spans a (by omega) hbounds.2.1 (by omega), ← hsplit]

/-- **A day number stands for the date that is reached by counting.** -/
theorem ofDayNumber_eq_afterDays (n : Nat) : ofDayNumber (n + 1) = afterDays n :=
  (afterDays_of_dayNumber (dayNumber_ofDayNumber n).1 (dayNumber_ofDayNumber n).2).symm

end Date

end Fingerprint.Calendar
