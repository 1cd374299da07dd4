/-
The proleptic Gregorian calendar: dates, and the number of days between a date
and the first of January 1970. Years are counted from March, so that the leap
day is the last day of its year.
-/

namespace Enrolment.Time

structure Date where
  year : Int
  month : Nat
  day : Nat
  deriving DecidableEq, Repr

def isLeapYear (year : Int) : Bool :=
  year % 4 == 0 && (year % 100 != 0 || year % 400 == 0)

def daysInMonth (year : Int) (month : Nat) : Nat :=
  if month = 2 then (if isLeapYear year then 29 else 28)
  else if month = 4 ∨ month = 6 ∨ month = 9 ∨ month = 11 then 30
  else 31

namespace Date

/-- A date that the calendar has. -/
def Exists (date : Date) : Prop :=
  1 ≤ date.month ∧ date.month ≤ 12 ∧
    1 ≤ date.day ∧ date.day ≤ daysInMonth date.year date.month

instance (date : Date) : Decidable date.Exists :=
  inferInstanceAs (Decidable (_ ∧ _ ∧ _ ∧ _))

/-- Days from the first of March of the year 0 to the first of January 1970. -/
def epochOffset : Int := 719468

/-- Days from the first of January 1970 to the date, negative before it. -/
def dayNumber (date : Date) : Int :=
  let year := if date.month ≤ 2 then date.year - 1 else date.year
  let monthsFromMarch := (date.month + 9) % 12
  365 * year + year / 4 - year / 100 + year / 400 +
    ((153 * monthsFromMarch + 2) / 5 + date.day : Nat) - 1 - epochOffset

/-- The date with a day number. A cycle of 400 years has 146097 days. -/
def ofDayNumber (number : Int) : Date :=
  let fromMarch := number + epochOffset
  let cycle := fromMarch / 146097
  let dayOfCycle := (fromMarch % 146097).toNat
  let yearOfCycle :=
    (dayOfCycle - dayOfCycle / 1460 + dayOfCycle / 36524 - dayOfCycle / 146096) / 365
  let dayOfYear := dayOfCycle - (365 * yearOfCycle + yearOfCycle / 4 - yearOfCycle / 100)
  let monthsFromMarch := (5 * dayOfYear + 2) / 153
  let month := if monthsFromMarch < 10 then monthsFromMarch + 3 else monthsFromMarch - 9
  let year := cycle * 400 + yearOfCycle
  { year := if month ≤ 2 then year + 1 else year
    month := month
    day := dayOfYear - (153 * monthsFromMarch + 2) / 5 + 1 }

end Date

end Enrolment.Time
