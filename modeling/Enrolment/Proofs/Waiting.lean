/-
How good the hint is that a throttled resend gives. The wait is judged by the order of instants,
the hint is a difference of instants, and the caller adds it to the time of the call. The three
agree unless a leap second stands at one end and the timeout is at an earlier or the same time of
a later day: then the difference overlooks the leap second, and the hint is too short.
-/

import Enrolment.Proofs.Cooldown
import Enrolment.Proofs.Elapsed

namespace Enrolment

open Time

/-! ### Differences -/

namespace Time.Instant

def leaps (instant : Instant) : Nat :=
  if instant.inLeapSecond = true then 1 else 0

/-- The leap seconds at both ends that the difference does not count, because the later instant
is at an earlier time of day, or at the same. -/
def overlooked (later earlier : Instant) : Nat :=
  if later.second ≤ earlier.second ∨ earlier.secondOfDay < later.secondOfDay then 0
  else if later.secondOfDay = earlier.secondOfDay then earlier.leaps
  else earlier.leaps + later.leaps

/-- How many nanoseconds of the leap second that the instant is in are over with it, if sums from
the origin do not enter that leap second. -/
def passedOver (origin instant : Instant) : Nat :=
  if instant.inLeapSecond = true ∧
      ¬ (origin.inLeapSecond = true ∧ instant.second = origin.second) then
    instant.nano + 1 - nanosPerSecond
  else 0

theorem leaps_of_leap {instant : Instant} (leap : nanosPerSecond ≤ instant.nano) :
    instant.leaps = 1 := by
  rw [leaps, if_pos (inLeapSecond_iff.mpr leap)]

theorem leaps_of_noLeap {instant : Instant} (noLeap : instant.nano < nanosPerSecond) :
    instant.leaps = 0 := by
  rw [leaps, if_neg]
  rw [inLeapSecond_iff]
  exact Nat.not_le.mpr noLeap

theorem elapsed_of_later {origin instant : Instant} (later : origin.second < instant.second) :
    origin.elapsed instant = instant.count - origin.count + origin.leaps * nanosPerSecond := by
  rcases Nat.lt_or_ge origin.nano nanosPerSecond with noLeap | leap
  · rw [leaps_of_noLeap noLeap]
    rcases origin.elapsed_cases instant with ⟨passed, elapsed⟩ | ⟨notPassed, elapsed⟩
    · omega
    · rw [elapsed]
      omega
  · rw [leaps_of_leap leap]
    rcases origin.elapsed_cases instant with ⟨passed, elapsed⟩ | ⟨notPassed, elapsed⟩
    · rw [elapsed]
      omega
    · omega

theorem leapBetween_of_later {later earlier : Instant}
    (after : earlier.secondOfDay < later.secondOfDay) :
    leapBetween later earlier = earlier.leaps := by
  unfold leapBetween leaps
  by_cases leap : earlier.inLeapSecond = true
  · rw [if_pos ⟨after, leap⟩, if_pos leap]
    rfl
  · rw [if_neg (fun both => leap both.2), if_neg (fun both => absurd both.1 (by omega)),
      if_neg leap]
    rfl

theorem leapBetween_of_earlier {later earlier : Instant}
    (before : later.secondOfDay < earlier.secondOfDay) :
    leapBetween later earlier = -(later.leaps : Int) := by
  unfold leapBetween leaps
  rw [if_neg (fun both => absurd both.1 (by omega))]
  by_cases leap : later.inLeapSecond = true
  · rw [if_pos ⟨before, leap⟩, if_pos leap]
    rfl
  · rw [if_neg (fun both => leap both.2), if_neg leap]
    rfl

theorem leapBetween_of_same {later earlier : Instant}
    (same : later.secondOfDay = earlier.secondOfDay) : leapBetween later earlier = 0 := by
  unfold leapBetween
  rw [if_neg (fun both => absurd both.1 (by omega)), if_neg (fun both => absurd both.1 (by omega))]

/-- A difference is the distance but for the leap seconds that it overlooks. -/
theorem elapsed_eq_since_add {later earlier : Instant} (ordered : earlier ≤ later) :
    earlier.elapsed later =
      (later.since earlier).nanos + overlooked later earlier * nanosPerSecond := by
  have difference : (later.since earlier).nanos =
      later.count - earlier.count + leapBetween later earlier * nanosPerSecond := rfl
  rw [difference, overlooked]
  rw [le_iff] at ordered
  rcases Int.lt_or_le earlier.second later.second with further | notFurther
  · rw [elapsed_of_later further]
    rcases Int.lt_trichotomy later.secondOfDay earlier.secondOfDay with before | same | after
    · rw [leapBetween_of_earlier before, if_neg (by omega), if_neg (by omega)]
      simp only [nanosPerSecond]
      omega
    · rw [leapBetween_of_same same, if_neg (by omega), if_pos same]
      omega
    · rw [leapBetween_of_later after, if_pos (Or.inr after)]
      omega
  · have same : later.second = earlier.second := by omega
    have sameOfDay : later.secondOfDay = earlier.secondOfDay := by
      rw [secondOfDay, secondOfDay, same]
    rw [leapBetween_of_same sameOfDay, if_pos (Or.inl notFurther)]
    have cases := earlier.elapsed_cases later
    omega

theorem elapsed_nonneg {origin instant : Instant} (ordered : origin ≤ instant) :
    0 ≤ origin.elapsed instant := by
  have bound := origin.nano_lt
  have cases := origin.elapsed_cases instant
  rw [le_iff] at ordered
  simp only [count, nanosPerSecond] at *
  omega

theorem eq_of_elapsed_eq_zero {origin instant : Instant} (ordered : origin ≤ instant)
    (none : origin.elapsed instant = 0) : origin = instant := by
  have bound := origin.nano_lt
  have cases := origin.elapsed_cases instant
  apply le_antisymm ordered
  rw [le_iff] at ordered ⊢
  simp only [count, nanosPerSecond] at *
  omega

/-- Every instant in line is reached by a span. -/
theorem exists_span {origin instant : Instant} (inLine : origin.InLine instant) :
    ∃ span : Duration, origin.add? span = some instant ∧ span.nanos = origin.elapsed instant := by
  have originValid := origin.valid
  have instantValid := instant.valid
  have cases := origin.elapsed_cases instant
  have bounded : -Duration.longest ≤ origin.elapsed instant ∧
      origin.elapsed instant ≤ Duration.longest := by
    simp only [Valid, firstSecond, lastSecond, Duration.longest, count, nanosPerSecond] at *
    omega
  exact ⟨⟨_, bounded⟩, add?_eq_some_iff.mpr ⟨inLine, rfl⟩, rfl⟩

/-- A difference is never a whole second short of nothing. -/
theorem neg_second_lt_since {later earlier : Instant} (ordered : earlier ≤ later) :
    -(nanosPerSecond : Int) < (later.since earlier).nanos := by
  have distance := elapsed_eq_since_add ordered
  have bound := earlier.nano_lt
  rcases Int.lt_or_le earlier.second later.second with further | notFurther
  · rw [elapsed_of_later further] at distance
    have atMost : overlooked later earlier ≤ earlier.leaps + later.leaps := by
      unfold overlooked
      split
      · omega
      · split
        · omega
        · omega
    rcases Nat.lt_or_ge later.nano nanosPerSecond with noLeap | leap
    · rw [leaps_of_noLeap noLeap] at atMost
      simp only [count, nanosPerSecond] at *
      omega
    · rw [leaps_of_leap leap] at atMost
      simp only [count, nanosPerSecond] at *
      omega
  · have nothing : overlooked later earlier = 0 := by
      rw [overlooked, if_pos (Or.inl notFurther)]
    have nonneg := elapsed_nonneg ordered
    simp only [nothing, nanosPerSecond] at *
    omega

/-- A sum does not pass an instant as long as the span is not longer than the distance, less what
there is of a leap second that the sum never enters. -/
theorem IsSum.le_iff_nanos_le {origin instant sum : Instant} {span : Duration}
    (isSum : origin.IsSum span sum) :
    sum ≤ instant ↔ span.nanos ≤ origin.elapsed instant - passedOver origin instant := by
  have originBound := origin.nano_lt
  have sumBound := sum.nano_lt
  have instantBound := instant.nano_lt
  have sumCases := origin.elapsed_cases sum
  have instantCases := origin.elapsed_cases instant
  have inLine := isSum.inLine
  rw [← isSum.elapsed, le_iff, passedOver]
  by_cases outside : instant.inLeapSecond = true ∧
      ¬ (origin.inLeapSecond = true ∧ instant.second = origin.second)
  · rw [if_pos outside]
    simp only [InLine, inLeapSecond_iff, count, nanosPerSecond] at *
    omega
  · rw [if_neg outside]
    simp only [InLine, inLeapSecond_iff, count, nanosPerSecond] at *
    omega

end Time.Instant

/-! ### Hints -/

namespace Registration

def Throttles (policy : Policy) (occasion : Occasion) (registration : Registration) : Prop :=
  ∃ retryAfter,
    (registration.resend policy occasion).result = .error (.resendThrottled retryAfter)

theorem throttles_iff {policy : Policy} {occasion : Occasion} {registration : Registration} :
    registration.Throttles policy occasion ↔ occasion.now ≤ registration.resendTimeout := by
  constructor
  · rintro ⟨retryAfter, told⟩
    have course := (⟨.resend, policy, occasion⟩ : Operation).course registration
    change (Operation.run ⟨.resend, policy, occasion⟩ registration).result = _ at told
    generalize Operation.run ⟨.resend, policy, occasion⟩ registration = outcome at course told
    cases course with
    | refused cause =>
        obtain rfl := Except.error.inj told
        cases cause with
        | throttled command early => exact early
    | passed idle => cases told
    | changed change => cases change <;> cases told
  · intro early
    exact ⟨_, congrArg Outcome.result (resend_of_early early)⟩

end Registration

/-- What the hint of a throttled resend is worth to a caller who adds it to the time of the
call. Resends at later times are throttled or not under any policy. -/
structure Hinted (registration : Registration) (now : Instant) (retryAfter : Duration) :
    Prop where
  exactly : ∀ (policy : Policy) (occasion : Occasion) (span : Duration),
    now.add? span = some occasion.now →
      (registration.Throttles policy occasion ↔
        span.nanos ≤ retryAfter.nanos +
          Instant.overlooked registration.resendTimeout now * nanosPerSecond -
            now.passedOver registration.resendTimeout)
  sound : Instant.overlooked registration.resendTimeout now = 0 →
    Duration.zero ≤ retryAfter ∧
      (retryAfter = Duration.zero → now = registration.resendTimeout) ∧
      ∀ (policy : Policy) (occasion : Occasion) (span : Duration),
        retryAfter < span → now.add? span = some occasion.now →
          ¬ registration.Throttles policy occasion
  /-- The timeout itself is so many seconds further than the hint. -/
  short : now.InLine registration.resendTimeout →
    ∃ span, now.add? span = some registration.resendTimeout ∧
      span.nanos = retryAfter.nanos +
        Instant.overlooked registration.resendTimeout now * nanosPerSecond
  /-- Less than a second below zero at the worst. -/
  bounded : -(nanosPerSecond : Int) < retryAfter.nanos

/-- The hint is sound unless the difference overlooks a leap second, and then it is short by
just that. -/
theorem Registration.resend_hinted {policy : Policy} {occasion : Occasion}
    {registration : Registration} {retryAfter : Duration}
    (told : (registration.resend policy occasion).result =
      .error (.resendThrottled retryAfter)) :
    Hinted registration occasion.now retryAfter := by
  have early : occasion.now ≤ registration.resendTimeout := throttles_iff.mp ⟨_, told⟩
  obtain rfl : retryAfter = registration.resendTimeout.since occasion.now := by
    rw [resend_of_early early] at told
    cases told
    rfl
  have distance := Instant.elapsed_eq_since_add early
  constructor
  · intro policy occasion span added
    rw [throttles_iff, (Instant.add?_eq_some_iff.mp added).le_iff_nanos_le, distance]
  · intro counted
    rw [counted, Int.natCast_zero, Int.zero_mul, Int.add_zero] at distance
    refine ⟨?_, ?_, ?_⟩
    · change 0 ≤ (registration.resendTimeout.since _).nanos
      rw [← distance]
      exact Instant.elapsed_nonneg early
    · intro none
      apply Instant.eq_of_elapsed_eq_zero early
      rw [distance, none]
      rfl
    · intro policy later span longer added
      rw [throttles_iff, (Instant.add?_eq_some_iff.mp added).le_iff_nanos_le, distance]
      have longer : (registration.resendTimeout.since _).nanos < span.nanos := longer
      omega
  · intro inLine
    rw [← distance]
    exact Instant.exists_span inLine
  · exact Instant.neg_second_lt_since early

/-! ### Samples -/

def Registration.beforeMidnight : Registration :=
  issued (.uniform ⟨86340, 0, by decide⟩ 0) ⟨.nil⟩ ⟨"a@b"⟩ ⟨"A"⟩ ⟨86940, 0, by decide⟩
    ⟨86400, 0, by decide⟩

/-- An ordinary wait of half a minute, and one that ends with a leap second. -/
theorem resend_hinted_before_midnight :
    ((Registration.unanswered.resend .brief (.uniform ⟨30, 0, by decide⟩ 0)).result =
        .error (.resendThrottled (.seconds 30)) ∧
      Instant.overlooked Registration.unanswered.resendTimeout ⟨30, 0, by decide⟩ = 0 ∧
      Hinted .unanswered ⟨30, 0, by decide⟩ (.seconds 30)) ∧
    (Registration.beforeMidnight.resend .brief
        (.uniform ⟨86399, 1500000000, by decide⟩ 0)).result =
      .error (.resendThrottled ⟨-500000000, by decide⟩) ∧
    Instant.overlooked Registration.beforeMidnight.resendTimeout
      ⟨86399, 1500000000, by decide⟩ = 1 ∧
    Hinted .beforeMidnight ⟨86399, 1500000000, by decide⟩ ⟨-500000000, by decide⟩ := by
  have ordinary : (Registration.unanswered.resend .brief (.uniform ⟨30, 0, by decide⟩ 0)).result =
      .error (.resendThrottled (.seconds 30)) := by decide
  have leap : (Registration.beforeMidnight.resend .brief
      (.uniform ⟨86399, 1500000000, by decide⟩ 0)).result =
        .error (.resendThrottled ⟨-500000000, by decide⟩) := by decide
  exact ⟨⟨ordinary, by decide, Registration.resend_hinted ordinary⟩, leap, by decide,
    Registration.resend_hinted leap⟩

/-- In the leap second at the end of 2016 one hint is zero although the wait is not over, and
another is negative; a resend after more than that is throttled again. -/
theorem hint_short_in_leap_second :
    ∃ (issued : Registration) (early late again : Occasion) (negative span : Duration),
      Policy.defaults.validate = .ok () ∧
      Registration.issue .defaults (.uniform ⟨1483228740, 0, by decide⟩ 0) ⟨.nil⟩ "a@b" =
        .ok issued ∧
      (issued.resend .defaults early).result = .error (.resendThrottled .zero) ∧
      early.now < issued.resendTimeout ∧
      (issued.resend .defaults late).result = .error (.resendThrottled negative) ∧
      negative < Duration.zero ∧ negative < span ∧ late.now.add? span = some again.now ∧
      issued.Throttles .defaults again := by
  refine ⟨_, .uniform ⟨1483228799, 1000000000, by decide⟩ 0,
    .uniform ⟨1483228799, 1500000000, by decide⟩ 0,
    .uniform ⟨1483228799, 1750000000, by decide⟩ 0, ⟨-500000000, by decide⟩,
    ⟨250000000, by decide⟩, rfl, rfl, ?_, ?_, ?_, ?_, ?_, ?_, Registration.throttles_iff.mpr ?_⟩
  all_goals decide

end Enrolment
