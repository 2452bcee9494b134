import WikiGraph.Calendar.Date
/-!
# Moments

A moment is a day of the calendar and a time of day. A day is kept as its number in its year, a time
of day as the seconds since midnight and the nanoseconds after them, as `NaiveDate` and `NaiveTime`
keep them. A leap second is the last second of its minute with a thousand million nanoseconds and
more, so a day has no more seconds for it.
-/
namespace WikiGraph.Calendar

/-! ## Days -/

def monthLengths (year : Int) : List Nat := (List.range' 1 12).map (daysInMonth year)

def daysInYear (year : Int) : Nat := (monthLengths year).foldr (· + ·) 0

/-- The number of a date in its year: the days of the months before its own, and its own. -/
def Date.ordinal (d : Date) : Nat :=
  ((monthLengths d.year).take (d.month - 1)).foldr (· + ·) d.day

/-- A day of the calendar, by its number in its year. -/
structure Day where
  year : Int
  ordinal : Nat
  year_mem : firstYear ≤ year ∧ year ≤ lastYear
  ordinal_mem : 1 ≤ ordinal ∧ ordinal ≤ daysInYear year

theorem length_monthLengths (year : Int) : (monthLengths year).length = 12 := by
  simp [monthLengths]

theorem getElem_monthLengths (year : Int) {i : Nat} (h : i < (monthLengths year).length) :
    (monthLengths year)[i] = daysInMonth year (i + 1) := by
  simp [monthLengths, Nat.add_comm]

theorem le_foldr_add (lengths : List Nat) (day : Nat) : day ≤ lengths.foldr (· + ·) day := by
  induction lengths with
  | nil => exact Nat.le_refl day
  | cons length rest ih => exact Nat.le_trans ih (Nat.le_add_left _ length)

theorem foldr_take_le {lengths : List Nat} {i day : Nat} (hi : i < lengths.length)
    (hu : day ≤ lengths[i]) :
    (lengths.take i).foldr (· + ·) day ≤ lengths.foldr (· + ·) 0 := by
  induction lengths generalizing i with
  | nil => cases hi
  | cons length rest ih =>
    cases i with
    | zero => exact Nat.le_trans hu (Nat.le_add_right length _)
    | succ i => exact Nat.add_le_add_left (ih (Nat.lt_of_succ_lt_succ hi) hu) length

/-- The day of a date is one of its month, which is among the twelve. -/
theorem Date.day_mem {d : Date} (h : d.exists) :
    1 ≤ d.month ∧ 1 ≤ d.day ∧ ∃ hi : d.month - 1 < (monthLengths d.year).length,
      d.day ≤ (monthLengths d.year)[d.month - 1] := by
  obtain ⟨-, hl, hu⟩ := exists_iff_within.1 h
  have hne : daysInMonth d.year d.month ≠ 0 := by omega
  obtain ⟨hm, hm'⟩ := month_of_daysInMonth_ne_zero hne
  have hi : d.month - 1 < (monthLengths d.year).length := by
    rw [length_monthLengths]
    omega
  refine ⟨hm, hl, hi, ?_⟩
  rw [getElem_monthLengths, Nat.sub_add_cancel hm]
  exact hu

theorem Date.ordinal_mem {d : Date} (h : d.exists) :
    1 ≤ d.ordinal ∧ d.ordinal ≤ daysInYear d.year := by
  obtain ⟨-, hl, hi, hu⟩ := d.day_mem h
  exact ⟨Nat.le_trans hl (le_foldr_add _ _), foldr_take_le hi hu⟩

/-- The day a date names, if there is one (`from_ymd_opt`). -/
def Day.ofDate? (d : Date) : Option Day :=
  if h : d.exists then
    some ⟨d.year, d.ordinal, (Date.exists_iff_within.1 h).1, d.ordinal_mem h⟩
  else none

/-- The month into which a day falls and its place there, where the months from a given one on have
the given lengths. -/
def monthAndDay (month ordinal : Nat) : List Nat → Nat × Nat
  | [] => (month, ordinal)
  | length :: rest =>
    if ordinal ≤ length then (month, ordinal) else monthAndDay (month + 1) (ordinal - length) rest

def Day.date (d : Day) : Date :=
  let (month, day) := monthAndDay 1 d.ordinal (monthLengths d.year)
  ⟨d.year, month, day⟩

/-! ## Times of day -/

structure TimeOfDay where
  seconds : Nat
  nanoseconds : Nat
  seconds_lt : seconds < 86400
  nanoseconds_lt : nanoseconds < 2000000000
  leap : 1000000000 ≤ nanoseconds → seconds % 60 = 59

/-- The time of day that hours, minutes and seconds name, if there is one (`to_naive_time`): a
second numbered sixty is a leap second, in whatever minute. -/
def TimeOfDay.ofClock? (hour minute second : Nat) : Option TimeOfDay :=
  if h : hour < 24 ∧ minute < 60 ∧ second < 60 then
    some ⟨hour * 3600 + minute * 60 + second, 0, by omega, by omega, by omega⟩
  else if h : hour < 24 ∧ minute < 60 ∧ second = 60 then
    some ⟨hour * 3600 + minute * 60 + 59, 1000000000, by omega, by omega, by omega⟩
  else none

def TimeOfDay.hour (t : TimeOfDay) : Nat := t.seconds / 3600

def TimeOfDay.minute (t : TimeOfDay) : Nat := t.seconds / 60 % 60

/-- The second as it is written: sixty for a leap second. -/
def TimeOfDay.second (t : TimeOfDay) : Nat := t.seconds % 60 + t.nanoseconds / 1000000000

/-- A moment of universal time (`NaiveDateTime`). -/
structure Moment where
  day : Day
  time : TimeOfDay

end WikiGraph.Calendar
