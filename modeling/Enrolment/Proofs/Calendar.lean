/-
Day numbers and dates undo each other: the date of a day number exists, and its day number is
the one it was made from. The days of the range that instants keep to lie in the years of it.
-/

import Enrolment.Time.Calendar
import Mathlib.Tactic.IntervalCases

namespace Enrolment.Time

namespace Date

/-! ### Days of a cycle of 400 years -/

/-- Where a day of a cycle lies: in which of the centuries, spans of four years, years and days.
Only the last year of a span has a leap day, and of the last spans only that of the last
century. -/
structure Lies (dayOfCycle century span year day : Nat) : Prop where
  sum : dayOfCycle = 36524 * century + 1461 * span + 365 * year + day
  century_le : century ≤ 3
  span_le : span ≤ 24
  year_le : year ≤ 3
  day_le : day ≤ 365
  leap : day = 365 → year = 3 ∧ (span ≠ 24 ∨ century = 3)

theorem exists_lies {dayOfCycle : Nat} (inCycle : dayOfCycle < 146097) :
    ∃ century span year day, Lies dayOfCycle century span year day := by
  obtain ⟨century, dayOfCentury, rfl, centuries, daysOfCentury, lastDay⟩ :
      ∃ century dayOfCentury, dayOfCycle = 36524 * century + dayOfCentury ∧ century ≤ 3 ∧
        dayOfCentury ≤ 36524 ∧ (dayOfCentury = 36524 → century = 3) :=
    ⟨min (dayOfCycle / 36524) 3, dayOfCycle - 36524 * min (dayOfCycle / 36524) 3,
      by omega, by omega, by omega, by omega⟩
  obtain ⟨year, day, dayOfSpan, years, days, leapDay⟩ :
      ∃ year day, dayOfCentury % 1461 = 365 * year + day ∧ year ≤ 3 ∧ day ≤ 365 ∧
        (day = 365 → year = 3) :=
    ⟨min (dayOfCentury % 1461 / 365) 3,
      dayOfCentury % 1461 - 365 * min (dayOfCentury % 1461 / 365) 3,
      by omega, by omega, by omega, by omega⟩
  exact ⟨century, dayOfCentury / 1461, year, day,
    by omega, centuries, by omega, years, days, by omega⟩

namespace Lies

variable {dayOfCycle century span year day : Nat}

/-- The leap days of the spans so far, the one of the running span perhaps too. -/
theorem div_1460 (lies : Lies dayOfCycle century span year day) :
    (dayOfCycle / 1460 = 25 * century + span ∧ day ≤ 364) ∨
      (dayOfCycle / 1460 = 25 * century + span + 1 ∧ 1 ≤ day) := by
  obtain ⟨sum, centuries, spans, years, days, leap⟩ := lies
  have low : 1460 * (25 * century + span) ≤ dayOfCycle := by omega
  by_cases high : dayOfCycle < 1460 * (25 * century + span + 1)
  · left
    have noLeapDay : day ≤ 364 := by omega
    exact ⟨by omega, noLeapDay⟩
  · right
    have next : dayOfCycle < 1460 * (25 * century + span + 2) := by omega
    have positive : 1 ≤ day := by omega
    exact ⟨by omega, positive⟩

/-- The centuries so far; the last day of the cycle counts as one more, and is counted. -/
theorem div_36524 (lies : Lies dayOfCycle century span year day) :
    (dayOfCycle / 36524 = century ∧ dayOfCycle / 146096 = 0) ∨
      (dayOfCycle / 36524 = century + 1 ∧ dayOfCycle / 146096 = 1) := by
  obtain ⟨sum, centuries, spans, years, days, leap⟩ := lies
  have low : 36524 * century ≤ dayOfCycle := by omega
  by_cases high : dayOfCycle < 36524 * (century + 1)
  · left
    have notLast : dayOfCycle < 146096 := by omega
    exact ⟨by omega, by omega⟩
  · right
    have last : dayOfCycle = 146096 ∧ century = 3 := by omega
    omega

/-- The estimate of the year is exact: without the leap days all years have the same length. -/
theorem yearOfCycle (lies : Lies dayOfCycle century span year day) :
    (dayOfCycle - dayOfCycle / 1460 + dayOfCycle / 36524 - dayOfCycle / 146096) / 365 =
      100 * century + 4 * span + year := by
  have evened :
      dayOfCycle - dayOfCycle / 1460 + dayOfCycle / 36524 - dayOfCycle / 146096 =
          365 * (100 * century + 4 * span + year) + day ∧ day ≤ 364 ∨
        dayOfCycle - dayOfCycle / 1460 + dayOfCycle / 36524 - dayOfCycle / 146096 + 1 =
          365 * (100 * century + 4 * span + year) + day ∧ 1 ≤ day := by
    have sum := lies.sum
    rcases lies.div_1460 with ⟨leapDays, bound⟩ | ⟨leapDays, bound⟩ <;>
      rcases lies.div_36524 with ⟨centuries, last⟩ | ⟨centuries, last⟩ <;>
        rw [leapDays, centuries, last] <;> omega
  have days := lies.day_le
  rcases evened with ⟨sum, bound⟩ | ⟨sum, bound⟩ <;> omega

theorem dayOfYear (lies : Lies dayOfCycle century span year day) :
    dayOfCycle - (365 * (100 * century + 4 * span + year) +
      (100 * century + 4 * span + year) / 4 - (100 * century + 4 * span + year) / 100) = day := by
  obtain ⟨sum, centuries, spans, years, days, leap⟩ := lies
  have spansSoFar : (100 * century + 4 * span + year) / 4 = 25 * century + span := by omega
  have centuriesSoFar : (100 * century + 4 * span + year) / 100 = century := by omega
  omega

end Lies

/-! ### Days of a year that begins in March -/

def fromMarch (year : Int) (day : Nat) : Date :=
  let months := (5 * day + 2) / 153
  let month := if months < 10 then months + 3 else months - 9
  { year := if month ≤ 2 then year + 1 else year
    month := month
    day := day - (153 * months + 2) / 5 + 1 }

theorem dayNumber_fromMarch {year : Int} {day : Nat} (inYear : day ≤ 365) :
    (fromMarch year day).dayNumber =
      365 * year + year / 4 - year / 100 + year / 400 + day - epochOffset := by
  have monthBegan : (153 * ((5 * day + 2) / 153) + 2) / 5 ≤ day := by omega
  by_cases early : (5 * day + 2) / 153 < 10
  · have sameYear : ¬(5 * day + 2) / 153 + 3 ≤ 2 := by omega
    have months : ((5 * day + 2) / 153 + 3 + 9) % 12 = (5 * day + 2) / 153 := by omega
    simp only [dayNumber, fromMarch, if_pos early, if_neg sameYear, months]
    omega
  · have nextYear : (5 * day + 2) / 153 - 9 ≤ 2 := by omega
    have months : ((5 * day + 2) / 153 - 9 + 9) % 12 = (5 * day + 2) / 153 := by omega
    simp only [dayNumber, fromMarch, if_neg early, if_pos nextYear, months]
    omega

theorem exists_fromMarch {year : Int} {day : Nat} (inYear : day ≤ 365)
    (leap : day = 365 → isLeapYear (year + 1) = true) : (fromMarch year day).Exists := by
  have months : (5 * day + 2) / 153 ≤ 11 := by omega
  have february : day - 337 + 1 ≤ if isLeapYear (year + 1) = true then 29 else 28 := by
    split
    · omega
    · have short : day ≠ 365 := by simp_all
      omega
  simp only [Exists, fromMarch]
  generalize counted : (5 * day + 2) / 153 = count at months
  -- one case for each month, with the days that it has
  interval_cases count <;> simp [daysInMonth] <;> omega

/-! ### Dates of day numbers -/

theorem ofDayNumber_eq (number : Int) :
    ∃ (cycle : Int) (dayOfCycle century span year day : Nat),
      number = 146097 * cycle + dayOfCycle - epochOffset ∧
      Lies dayOfCycle century span year day ∧
      ofDayNumber number =
        fromMarch (cycle * 400 + (100 * century + 4 * span + year : Nat)) day := by
  have inCycle : ((number + epochOffset) % 146097).toNat < 146097 := by omega
  obtain ⟨century, span, year, day, lies⟩ := exists_lies inCycle
  refine ⟨(number + epochOffset) / 146097, _, century, span, year, day, by omega, lies, ?_⟩
  simp only [ofDayNumber, lies.yearOfCycle, lies.dayOfYear]
  rfl

theorem dayNumber_ofDayNumber (number : Int) : (ofDayNumber number).dayNumber = number := by
  obtain ⟨cycle, dayOfCycle, century, span, year, day, rfl, lies, made⟩ := ofDayNumber_eq number
  rw [made, dayNumber_fromMarch lies.day_le]
  have dayOfYear := lies.dayOfYear
  obtain ⟨sum, centuries, spans, years, days, leap⟩ := lies
  omega

theorem exists_ofDayNumber (number : Int) : (ofDayNumber number).Exists := by
  obtain ⟨cycle, dayOfCycle, century, span, year, day, _, lies, made⟩ := ofDayNumber_eq number
  rw [made]
  apply exists_fromMarch lies.day_le
  intro last
  obtain ⟨rfl, unskipped⟩ := lies.leap last
  have centuries := lies.century_le
  have spans := lies.span_le
  simp only [isLeapYear, Bool.and_eq_true, Bool.or_eq_true, beq_iff_eq, bne_iff_ne]
  omega

/-! ### Years -/

def newYear (year : Int) : Date :=
  { year, month := 1, day := 1 }

theorem dayNumber_newYear (year : Int) :
    (newYear year).dayNumber = 365 * (year - 1) + (year - 1) / 4 - (year - 1) / 100 +
      (year - 1) / 400 + 306 - epochOffset := by
  simp only [newYear, dayNumber]
  omega

theorem dayNumber_newYear_mono {earlier later : Int} (ordered : earlier ≤ later) :
    (newYear earlier).dayNumber ≤ (newYear later).dayNumber := by
  rw [dayNumber_newYear, dayNumber_newYear]
  omega

theorem daysInMonth_le (year : Int) (month : Nat) : daysInMonth year month ≤ 31 := by
  unfold daysInMonth
  split
  · split <;> omega
  · split <;> omega

/-- A date lies between the first of January of its year and that of the next. -/
theorem within_year {date : Date} (inCalendar : date.Exists) :
    (newYear date.year).dayNumber ≤ date.dayNumber ∧
      date.dayNumber < (newYear (date.year + 1)).dayNumber := by
  obtain ⟨year, month, day⟩ := date
  obtain ⟨fromFirst, toLast, fromOne, days⟩ := inCalendar
  have short : day ≤ 31 := days.trans (daysInMonth_le year month)
  rw [dayNumber_newYear, dayNumber_newYear]
  dsimp only at fromFirst toLast fromOne ⊢
  simp only [dayNumber]
  interval_cases month <;> simp <;> omega

/-- The year of a day lies between those whose first days it lies between. -/
theorem year_bounds {number first last : Int} (fromFirst : (newYear first).dayNumber ≤ number)
    (toLast : number < (newYear (last + 1)).dayNumber) :
    first ≤ (ofDayNumber number).year ∧ (ofDayNumber number).year ≤ last := by
  obtain ⟨began, ends⟩ := within_year (exists_ofDayNumber number)
  rw [dayNumber_ofDayNumber] at began ends
  constructor
  · by_contra before
    have earlier := dayNumber_newYear_mono
      (show (ofDayNumber number).year + 1 ≤ first by omega)
    omega
  · by_contra after
    have later := dayNumber_newYear_mono
      (show last + 1 ≤ (ofDayNumber number).year by omega)
    omega

end Date

end Enrolment.Time
