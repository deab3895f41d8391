/-!
# The calendar

Days counted from the first of January 1970, and the dates of the Gregorian
calendar, extended to all years.
-/

namespace LinkDigest.Calendar

/-- A date. Months and days count from one. -/
structure Date where
  year : Int
  month : Nat
  day : Nat
deriving DecidableEq, Repr

/-- Whether a year has a leap day. -/
def isLeapYear (year : Int) : Bool :=
  year % 4 == 0 && (year % 100 != 0 || year % 400 == 0)

/-- The days of a month. -/
def daysInMonth (year : Int) (month : Nat) : Nat :=
  if month = 2 then (if isLeapYear year then 29 else 28)
  else if month = 4 ∨ month = 6 ∨ month = 9 ∨ month = 11 then 30
  else 31

/-- Whether there is such a date. -/
def Date.IsValid (d : Date) : Prop :=
  1 ≤ d.month ∧ d.month ≤ 12 ∧ 1 ≤ d.day ∧ d.day ≤ daysInMonth d.year d.month

instance (d : Date) : Decidable d.IsValid := by unfold Date.IsValid; infer_instance

/-- Days before the first of March of a year, from the first of March of year 0. -/
def daysBeforeMarch (year : Int) : Int := 365 * year + year / 4 - year / 100 + year / 400

/-- Days before a month that is `month` months after March. -/
def daysBeforeMonth (month : Nat) : Nat := (153 * month + 2) / 5

/-- The number of a date. The year is taken to begin in March, so that a leap
day is its last. -/
def Date.toDays (d : Date) : Int :=
  let marchYear := if d.month ≤ 2 then d.year - 1 else d.year
  let month := (d.month + 9) % 12
  daysBeforeMarch marchYear + daysBeforeMonth month + d.day - 1 - 719468

/-- The days of 400 years, after which the calendar repeats. -/
def daysOfCycle : Nat := 146097

/-- The date of a day. -/
def Date.ofDays (days : Int) : Date :=
  let shifted := days + 719468
  let cycle := shifted / daysOfCycle
  let dayOfCycle := (shifted % daysOfCycle).toNat
  let yearOfCycle :=
    (dayOfCycle - dayOfCycle / 1460 + dayOfCycle / 36524 - dayOfCycle / 146096) / 365
  let dayOfYear := dayOfCycle - (365 * yearOfCycle + yearOfCycle / 4 - yearOfCycle / 100)
  let month := (5 * dayOfYear + 2) / 153
  let marchYear := cycle * 400 + yearOfCycle
  { year := if month ≥ 10 then marchYear + 1 else marchYear
    month := if month ≥ 10 then month - 9 else month + 3
    day := dayOfYear - daysBeforeMonth month + 1 }

example : (Date.mk 1970 1 1).toDays = 0 ∧ (Date.mk 2000 2 29).toDays = 11016 := by decide
example : Date.ofDays (-1) = ⟨1969, 12, 31⟩ ∧ Date.ofDays 11016 = ⟨2000, 2, 29⟩ := by decide

end LinkDigest.Calendar
