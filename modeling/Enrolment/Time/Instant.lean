/-
Instants in UTC, to the nanosecond. The seconds count from 1970 and skip leap
seconds; an instant inside a leap second keeps the count of the second before
it and has a nanosecond part of one thousand million or more.
-/

import Enrolment.Time.Duration

namespace Enrolment.Time

/-- The first second of the year −262143. -/
def Instant.firstSecond : Int := -8334601228800

/-- The last second of the year 262142. -/
def Instant.lastSecond : Int := 8210266876799

def Instant.Valid (second : Int) (nano : Nat) : Prop :=
  Instant.firstSecond ≤ second ∧ second ≤ Instant.lastSecond ∧ nano < 2 * nanosPerSecond ∧
    (nanosPerSecond ≤ nano → second % 60 = 59)

instance (second : Int) (nano : Nat) : Decidable (Instant.Valid second nano) :=
  inferInstanceAs (Decidable (_ ∧ _ ∧ _ ∧ (_ → _)))

structure Instant where
  second : Int
  nano : Nat
  valid : Instant.Valid second nano
  deriving DecidableEq

namespace Instant

def of? (second : Int) (nano : Nat) : Option Instant :=
  if valid : Valid second nano then some ⟨second, nano, valid⟩ else none

def inLeapSecond (instant : Instant) : Bool :=
  nanosPerSecond ≤ instant.nano

/-! ### Order -/

def Before (left right : Instant) : Prop :=
  left.second < right.second ∨ left.second = right.second ∧ left.nano < right.nano

instance : LT Instant := ⟨Before⟩
instance : LE Instant := ⟨fun left right => ¬ right < left⟩

instance (left right : Instant) : Decidable (left < right) :=
  inferInstanceAs (Decidable (_ ∨ _ ∧ _))

instance (left right : Instant) : Decidable (left ≤ right) :=
  inferInstanceAs (Decidable (¬ right < left))

/-! ### Arithmetic -/

/-- Nanoseconds from 1970. Both names of the second that follows a leap second
lead to the same count, so this is one to one only outside leap seconds. -/
def count (instant : Instant) : Int :=
  instant.second * nanosPerSecond + instant.nano

/-- The instant outside leap seconds with a count of nanoseconds. -/
def ofCount? (count : Int) : Option Instant :=
  of? (count / nanosPerSecond) (count % nanosPerSecond).toNat

/-- The instant a span later. A span that stays inside a leap second, or goes
back into the second before it, changes the nanosecond part only; one that
leaves a leap second forward passes the extra second first. -/
def add? (instant : Instant) (span : Duration) : Option Instant :=
  if instant.inLeapSecond then
    let part := instant.nano + span.subsecondNanos
    if 0 < span.wholeSeconds ∨ (0 < span.subsecondNanos ∧ 2 * nanosPerSecond ≤ part) then
      ofCount? (instant.count - nanosPerSecond + span.nanos)
    else if span.wholeSeconds < 0 then
      ofCount? (instant.count + span.nanos)
    else
      of? instant.second part.toNat
  else
    ofCount? (instant.count + span.nanos)

def secondOfDay (instant : Instant) : Int :=
  instant.second % 86400

/-- The leap second between two instants, seen only through their times of day. -/
def leapBetween (later earlier : Instant) : Int :=
  if later.secondOfDay > earlier.secondOfDay ∧ earlier.inLeapSecond then 1
  else if later.secondOfDay < earlier.secondOfDay ∧ later.inLeapSecond then -1
  else 0

private theorem since_bounded (later earlier : Instant) :
    -Duration.longest ≤ later.count - earlier.count + leapBetween later earlier * nanosPerSecond ∧
      later.count - earlier.count + leapBetween later earlier * nanosPerSecond ≤
        Duration.longest := by
  have leap : leapBetween later earlier = 1 ∨ leapBetween later earlier = -1 ∨
      leapBetween later earlier = 0 := by
    unfold leapBetween; split
    · exact Or.inl rfl
    · split
      · exact Or.inr (Or.inl rfl)
      · exact Or.inr (Or.inr rfl)
  have laterValid := later.valid
  have earlierValid := earlier.valid
  simp only [Valid, firstSecond, lastSecond, nanosPerSecond] at laterValid earlierValid
  simp only [count, nanosPerSecond, Duration.longest]
  rcases leap with leap | leap | leap <;> rw [leap] <;> omega

def since (later earlier : Instant) : Duration :=
  ⟨later.count - earlier.count + leapBetween later earlier * nanosPerSecond,
    since_bounded later earlier⟩

end Instant

end Enrolment.Time
