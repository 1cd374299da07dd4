/-
Spans of time in nanoseconds, of either sign. A span holds at most as many
milliseconds as a signed 64-bit number can count.
-/

namespace Enrolment.Time

def nanosPerSecond : Nat := 1000000000

/-- The longest span, (2^63 − 1) milliseconds, in nanoseconds. -/
def Duration.longest : Int := 9223372036854775807000000

structure Duration where
  nanos : Int
  bounded : -Duration.longest ≤ nanos ∧ nanos ≤ Duration.longest
  deriving DecidableEq

namespace Duration

def ofNanos? (nanos : Int) : Option Duration :=
  if bounded : -longest ≤ nanos ∧ nanos ≤ longest then some ⟨nanos, bounded⟩ else none

def ofSeconds? (seconds : Int) : Option Duration :=
  ofNanos? (seconds * nanosPerSecond)

def zero : Duration := ⟨0, by decide⟩

/-- A whole number of seconds up to a thousand years or so, as settings use. -/
def seconds (count : Nat) (small : count ≤ 32000000000 := by decide) : Duration :=
  ⟨count * nanosPerSecond, by simp only [longest, nanosPerSecond]; omega⟩

/-- Whole seconds, the fraction cut off toward zero. -/
def wholeSeconds (duration : Duration) : Int :=
  duration.nanos.tdiv nanosPerSecond

/-- What the whole seconds leave over, with the sign of the span. -/
def subsecondNanos (duration : Duration) : Int :=
  duration.nanos.tmod nanosPerSecond

instance : LT Duration := ⟨fun left right => left.nanos < right.nanos⟩
instance : LE Duration := ⟨fun left right => left.nanos ≤ right.nanos⟩

instance (left right : Duration) : Decidable (left < right) :=
  inferInstanceAs (Decidable (left.nanos < right.nanos))

instance (left right : Duration) : Decidable (left ≤ right) :=
  inferInstanceAs (Decidable (left.nanos ≤ right.nanos))

end Duration

end Enrolment.Time
