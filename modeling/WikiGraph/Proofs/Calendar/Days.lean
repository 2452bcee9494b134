import Mathlib.Tactic.IntervalCases
import Std.Time.Date.PlainDate
import WikiGraph.Calendar.Moment
/-!
# The days of the calendar

The standard library has a calendar of its own, in which a date carries a proof that its month has
so many days. Months here are as long as there in every year, before the year one too (`isDay_iff`),
so what is said of days of this calendar is said of that one. A day is kept by its number in its
year, and a time of day by its seconds: both give back what they were made from
(`date_of_ofDate?`, `clock_of_ofClock?`).
-/
namespace WikiGraph.Calendar

open Std.Time

/-- Whether a year, a month and a day as written name a date of the Gregorian calendar. -/
def IsDay (year : Int) (month day : Nat) : Prop :=
  ∃ d : PlainDate, d.year.toInt = year ∧ d.month.val = month ∧ d.day.val = day

theorem tmod_eq_zero_iff (a b : Int) : a.tmod b = 0 ↔ a % b = 0 := by
  rw [← Int.dvd_iff_tmod_eq_zero, ← Int.dvd_iff_emod_eq_zero]

theorem isLeap_eq (year : Year.Offset) : year.isLeap = isLeapYear year.toInt := by
  rw [Year.Offset.isLeap, isLeapYear, Bool.eq_iff_iff]
  simp [tmod_eq_zero_iff]

/-- The lengths of the twelve months. -/
theorem days_eq (year : Int) {month : Nat} (h : 1 ≤ (month : Int) ∧ (month : Int) ≤ 12) :
    (Month.Ordinal.days (isLeapYear year) ⟨month, h⟩).val = daysInMonth year month := by
  obtain ⟨hl, hu⟩ := h
  have hl' : 1 ≤ month := by omega
  have hu' : month ≤ 12 := by omega
  unfold daysInMonth
  interval_cases month <;> cases isLeapYear year <;> rfl

theorem daysInMonth_le (year : Int) (month : Nat) : daysInMonth year month ≤ 31 := by
  unfold daysInMonth
  split <;> first | (split <;> omega) | omega

/-- **The days of the calendar** are those from the first of a month to its last. -/
theorem isDay_iff (year : Int) (month day : Nat) :
    IsDay year month day ↔ 1 ≤ day ∧ day ≤ daysInMonth year month := by
  constructor
  · rintro ⟨⟨y, ⟨m, hm⟩, ⟨d, hd⟩, hvalid⟩, rfl, hmonth, hday⟩
    obtain rfl : m = month := hmonth
    obtain rfl : d = day := hday
    have hle : (day : Int) ≤ (Month.Ordinal.days y.isLeap ⟨month, hm⟩).val := hvalid
    rw [isLeap_eq, days_eq] at hle
    show 1 ≤ day ∧ day ≤ daysInMonth y.toInt month
    omega
  · rintro ⟨hl, hu⟩
    have hne : daysInMonth year month ≠ 0 := by omega
    have hmonth := month_of_daysInMonth_ne_zero hne
    have hbound := daysInMonth_le year month
    have hm : 1 ≤ (month : Int) ∧ (month : Int) ≤ 12 := by omega
    have hd : 1 ≤ (day : Int) ∧ (day : Int) ≤ 31 := by omega
    have hvalid : (day : Int) ≤ (Month.Ordinal.days (Year.Offset.isLeap year) ⟨month, hm⟩).val := by
      rw [isLeap_eq, Year.Offset.toInt, days_eq]
      omega
    exact ⟨⟨year, ⟨month, hm⟩, ⟨day, hd⟩, hvalid⟩, rfl, rfl, rfl⟩

theorem exists_iff (d : Date) :
    d.exists ↔ firstYear ≤ d.year ∧ d.year ≤ lastYear ∧ IsDay d.year d.month d.day := by
  rw [Date.exists_iff_within, isDay_iff, and_assoc]

/-! ## Days by their number -/

/-- A place in a month is found again when the days of the months before are put in front of it. -/
theorem monthAndDay_foldr_take {lengths : List Nat} {i day : Nat} (hi : i < lengths.length)
    (hl : 1 ≤ day) (hu : day ≤ lengths[i]) (month : Nat) :
    monthAndDay month ((lengths.take i).foldr (· + ·) day) lengths = (month + i, day) := by
  induction lengths generalizing i month with
  | nil => cases hi
  | cons length rest ih =>
    cases i with
    | zero => exact if_pos hu
    | succ i =>
      have hmore := le_foldr_add (rest.take i) day
      have hover : ¬ length + (rest.take i).foldr (· + ·) day ≤ length := by omega
      show monthAndDay month (length + (rest.take i).foldr (· + ·) day) (length :: rest) = _
      rw [monthAndDay, if_neg hover, Nat.add_sub_cancel_left, ih (Nat.lt_of_succ_lt_succ hi) hu,
        Nat.add_right_comm, Nat.add_assoc]

theorem exists_ofDate? {d : Date} : (∃ day, Day.ofDate? d = some day) ↔ d.exists := by
  unfold Day.ofDate?
  split
  · rename_i he
    simp only [Option.some.injEq, exists_eq', he]
  · rename_i he
    simp only [reduceCtorEq, exists_false, he]

/-- **A day has the date it was made from.** -/
theorem date_of_ofDate? {d : Date} {day : Day} (h : Day.ofDate? d = some day) : day.date = d := by
  have he : d.exists := exists_ofDate?.1 ⟨day, h⟩
  obtain ⟨hm, hl, hi, hu⟩ := d.day_mem he
  have hplace := monthAndDay_foldr_take hi hl hu 1
  rw [Nat.add_sub_cancel' hm] at hplace
  rw [Day.ofDate?, dif_pos he] at h
  cases h
  show Date.mk d.year (monthAndDay 1 d.ordinal (monthLengths d.year)).1
    (monthAndDay 1 d.ordinal (monthLengths d.year)).2 = d
  rw [Date.ordinal, hplace]

/-! ## Times of day -/

theorem exists_ofClock? {hour minute second : Nat} :
    (∃ t, TimeOfDay.ofClock? hour minute second = some t) ↔
      hour < 24 ∧ minute < 60 ∧ second ≤ 60 := by
  unfold TimeOfDay.ofClock?
  split
  · simp only [Option.some.injEq, exists_eq', true_iff]
    omega
  · split
    · simp only [Option.some.injEq, exists_eq', true_iff]
      omega
    · simp only [reduceCtorEq, exists_false, false_iff]
      omega

/-- **A time of day has the hours, minutes and seconds it was made from**, a leap second too. -/
theorem clock_of_ofClock? {hour minute second : Nat} {t : TimeOfDay}
    (h : TimeOfDay.ofClock? hour minute second = some t) :
    t.hour = hour ∧ t.minute = minute ∧ t.second = second := by
  unfold TimeOfDay.ofClock? at h
  unfold TimeOfDay.hour TimeOfDay.minute TimeOfDay.second
  split at h
  · cases h
    dsimp only
    omega
  · split at h
    · cases h
      dsimp only
      omega
    · cases h

end WikiGraph.Calendar
