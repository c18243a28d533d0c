import Mathlib.Tactic.Common

/-!
# The proleptic Gregorian calendar

Dates and day numbers: day 0 is the first of January 1970. A `Date` carries the
proof that it is one, so that the conversions between the two need no error case.
-/

namespace Calendar

def leap (year : Int) : Bool :=
  year % 4 == 0 && (year % 100 != 0 || year % 400 == 0)

/-- The number of days in a month, which counts from 1. -/
def daysIn (leap : Bool) (month : Nat) : Nat :=
  if month = 2 then (if leap then 29 else 28)
  else if month = 4 ∨ month = 6 ∨ month = 9 ∨ month = 11 then 30
  else 31

/-- The days of the year before a month. -/
def daysBefore (leap : Bool) : Nat → Nat
  | 0 => 0
  | 1 => 0
  | month + 2 => daysBefore leap (month + 1) + daysIn leap (month + 1)

def yearLength (leap : Bool) : Nat := if leap then 366 else 365

/-- The number of the first day of a year. -/
def firstDay (year : Int) : Int :=
  365 * (year - 1970) + (year - 1969) / 4 - (year - 1901) / 100 + (year - 1601) / 400

theorem firstDay_succ (year : Int) :
    firstDay (year + 1) = firstDay year + yearLength (leap year) := by
  unfold firstDay yearLength
  by_cases h : leap year = true
  · rw [if_pos h]
    simp only [leap, Bool.and_eq_true, Bool.or_eq_true, beq_iff_eq, bne_iff_ne] at h
    omega
  · rw [if_neg h]
    simp only [leap, Bool.and_eq_true, Bool.or_eq_true, beq_iff_eq, bne_iff_ne] at h
    omega

/-- The year of a day: the mean length of a year gives it up to one year. -/
def yearOf (day : Int) : Int :=
  let year := 1970 + day * 400 / 146097
  if day < firstDay year then year - 1
  else if firstDay (year + 1) ≤ day then year + 1
  else year

theorem yearOf_spec (day : Int) :
    firstDay (yearOf day) ≤ day ∧ day < firstDay (yearOf day + 1) := by
  have low := Int.ediv_mul_le (day * 400) (show (146097 : Int) ≠ 0 by decide)
  have high := Int.lt_ediv_add_one_mul_self (day * 400) (show (0 : Int) < 146097 by decide)
  unfold yearOf
  dsimp only
  generalize day * 400 / 146097 = years at *
  split_ifs with early late
  · rw [Int.sub_add_cancel]
    refine ⟨?_, early⟩
    unfold firstDay at *
    omega
  · refine ⟨late, ?_⟩
    unfold firstDay at *
    omega
  · exact ⟨Int.not_lt.mp early, Int.not_le.mp late⟩

/-- The month and the day of the month that has `n` days of the year before it. -/
def monthDay (leap : Bool) (n : Nat) : Nat × Nat :=
  match (List.range' 1 12).find? fun month => n < daysBefore leap (month + 1) with
  | some month => (month, n - daysBefore leap month + 1)
  | none => (12, 31)

theorem monthDay_spec : ∀ leap, ∀ n < yearLength leap,
    1 ≤ (monthDay leap n).1 ∧ (monthDay leap n).1 ≤ 12 ∧ 1 ≤ (monthDay leap n).2 ∧
      (monthDay leap n).2 ≤ daysIn leap (monthDay leap n).1 ∧
      daysBefore leap (monthDay leap n).1 + (monthDay leap n).2 = n + 1 := by
  decide +kernel

structure Date where
  year : Int
  month : Nat
  day : Nat
  monthLow : 1 ≤ month
  monthHigh : month ≤ 12
  dayLow : 1 ≤ day
  dayHigh : day ≤ daysIn (leap year) month

namespace Date

def toDay (d : Date) : Int :=
  firstDay d.year + daysBefore (leap d.year) d.month + d.day - 1

/-- The days of the year before a day are fewer than the year has. -/
theorem dayOfYear_lt (day : Int) :
    (day - firstDay (yearOf day)).toNat < yearLength (leap (yearOf day)) := by
  have bounds := yearOf_spec day
  rw [firstDay_succ] at bounds
  omega

def ofDay (n : Int) : Date :=
  let year := yearOf n
  let spec := monthDay_spec (leap year) (n - firstDay year).toNat (dayOfYear_lt n)
  { year := year
    month := (monthDay (leap year) (n - firstDay year).toNat).1
    day := (monthDay (leap year) (n - firstDay year).toNat).2
    monthLow := spec.1
    monthHigh := spec.2.1
    dayLow := spec.2.2.1
    dayHigh := spec.2.2.2.1 }

@[simp] theorem toDay_ofDay (n : Int) : (ofDay n).toDay = n := by
  have spec := monthDay_spec (leap (yearOf n)) _ (dayOfYear_lt n)
  have bounds := yearOf_spec n
  simp only [toDay, ofDay]
  omega

/-- A date of three numbers, where they are one. -/
def of? (year : Int) (month day : Nat) : Option Date :=
  if h : 1 ≤ month ∧ month ≤ 12 ∧ 1 ≤ day ∧ day ≤ daysIn (leap year) month then
    some ⟨year, month, day, h.1, h.2.1, h.2.2.1, h.2.2.2⟩
  else none

@[simp] theorem of?_self (d : Date) : of? d.year d.month d.day = some d :=
  dif_pos ⟨d.monthLow, d.monthHigh, d.dayLow, d.dayHigh⟩

/-- The years are in the order of the days. -/
theorem year_bounds {n : Int} {low high : Int} (after : firstDay low ≤ n)
    (before : n < firstDay high) : low ≤ (ofDay n).year ∧ (ofDay n).year < high := by
  have bounds := yearOf_spec n
  change low ≤ yearOf n ∧ yearOf n < high
  generalize yearOf n = year at *
  unfold firstDay at *
  omega

end Date

end Calendar
