/-!
# Calendar dates

Dates of the Gregorian calendar, extended in both directions over the years for which days can be
counted.
-/
namespace WikiGraph.Calendar

def isLeapYear (year : Int) : Bool :=
  year % 4 = 0 && (year % 100 ≠ 0 || year % 400 = 0)

/-- The length of a month of a year; a month that does not exist has no days. -/
def daysInMonth (year : Int) (month : Nat) : Nat :=
  match month with
  | 2 => if isLeapYear year then 29 else 28
  | 4 | 6 | 9 | 11 => 30
  | 1 | 3 | 5 | 7 | 8 | 10 | 12 => 31
  | _ => 0

/-- A year, a month and a day as written. -/
structure Date where
  year : Int
  month : Nat
  day : Nat
deriving DecidableEq, Repr

def firstYear : Int := -262143

def lastYear : Int := 262142

def Date.exists (d : Date) : Bool :=
  firstYear ≤ d.year && d.year ≤ lastYear && 1 ≤ d.day && d.day ≤ daysInMonth d.year d.month

theorem Date.exists_iff_within {d : Date} :
    d.exists ↔ (firstYear ≤ d.year ∧ d.year ≤ lastYear) ∧
      1 ≤ d.day ∧ d.day ≤ daysInMonth d.year d.month := by
  simp [Date.exists, and_assoc]

/-- Only twelve months have days. -/
theorem month_of_daysInMonth_ne_zero {year : Int} {month : Nat} (h : daysInMonth year month ≠ 0) :
    1 ≤ month ∧ month ≤ 12 := by
  unfold daysInMonth at h
  split at h <;> omega

end WikiGraph.Calendar
