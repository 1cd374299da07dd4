/-
A clock that stands still until it is moved.
-/

import Enrolment.Time.Instant

namespace Enrolment.Time

structure Clock where
  now : Instant
  deriving DecidableEq

namespace Clock

/-- Moves the clock on, or back by a negative span, if it stays in range. -/
def advance? (clock : Clock) (span : Duration) : Option Clock :=
  (clock.now.add? span).map fun now => { clock with now }

def set (clock : Clock) (now : Instant) : Clock :=
  { clock with now }

end Clock

end Enrolment.Time
