/-
The order of instants, and how addition goes with it. An instant plus a positive span is a
later instant, in a leap second as well as outside; so the timers that a usable policy sets
lie after the time at which they are set.
-/

import Enrolment.Proofs.Course
import Mathlib.Order.Defs.LinearOrder

namespace Enrolment

open Time

/-! ### Order -/

namespace Time.Instant

theorem lt_iff {left right : Instant} : left < right ↔
    left.second < right.second ∨ left.second = right.second ∧ left.nano < right.nano :=
  Iff.rfl

theorem le_iff {left right : Instant} : left ≤ right ↔
    left.second < right.second ∨ left.second = right.second ∧ left.nano ≤ right.nano := by
  change ¬ right < left ↔ _
  rw [lt_iff]
  omega

instance : LinearOrder Instant where
  le_refl instant := by
    rw [le_iff]
    omega
  le_trans first second third := by
    simp only [le_iff]
    omega
  lt_iff_le_not_ge left right := by
    rw [lt_iff, le_iff, le_iff]
    omega
  le_antisymm left right := by
    intro notLater notEarlier
    rw [le_iff] at notLater notEarlier
    have second : left.second = right.second := by omega
    have nano : left.nano = right.nano := by omega
    cases left
    cases right
    simp only [mk.injEq]
    exact ⟨second, nano⟩
  le_total left right := by
    rw [le_iff, le_iff]
    omega
  toDecidableLE := inferInstance
  toDecidableEq := inferInstance
  toDecidableLT := inferInstance

/-! ### Addition -/

theorem eq_of_ofCount? {count : Int} {instant : Instant} (reached : ofCount? count = some instant) :
    instant.second = count / nanosPerSecond ∧
      instant.nano = (count % nanosPerSecond).toNat := by
  unfold ofCount? of? at reached
  split at reached
  · rw [← Option.some.inj reached]
    exact ⟨rfl, rfl⟩
  · cases reached

theorem eq_of_of? {second : Int} {nano : Nat} {instant : Instant}
    (reached : of? second nano = some instant) : instant.second = second ∧ instant.nano = nano := by
  unfold of? at reached
  split at reached
  · rw [← Option.some.inj reached]
    exact ⟨rfl, rfl⟩
  · cases reached

/-- A count beyond that of an instant outside leap seconds is the count of a later one. -/
theorem lt_of_ofCount? {count : Int} {instant later : Instant}
    (reached : ofCount? count = some later) (outside : instant.nano < nanosPerSecond)
    (further : instant.count < count) : instant < later := by
  obtain ⟨second, nano⟩ := eq_of_ofCount? reached
  rw [lt_iff, second, nano]
  simp only [Instant.count, nanosPerSecond] at outside further ⊢
  omega

theorem lt_of_ofCount?_next {count : Int} {instant later : Instant}
    (reached : ofCount? count = some later)
    (further : (instant.second + 1) * nanosPerSecond ≤ count) : instant < later := by
  obtain ⟨second, _⟩ := eq_of_ofCount? reached
  rw [lt_iff, second]
  simp only [nanosPerSecond] at further ⊢
  omega

theorem lt_of_add? {instant later : Instant} {span : Duration} (positive : Duration.zero < span)
    (added : instant.add? span = some later) : instant < later := by
  have longer : 0 < span.nanos := positive
  have whole : span.wholeSeconds = span.nanos / nanosPerSecond :=
    Int.tdiv_eq_ediv_of_nonneg (Int.le_of_lt longer)
  have part : span.subsecondNanos = span.nanos % nanosPerSecond :=
    Int.tmod_eq_emod_of_nonneg (Int.le_of_lt longer)
  rw [add?, whole, part] at added
  dsimp only at added
  cases leap : instant.inLeapSecond with
  | false =>
      have outside : instant.nano < nanosPerSecond := by simpa [inLeapSecond] using leap
      rw [if_neg (by simp [leap])] at added
      apply lt_of_ofCount? added outside
      omega
  | true =>
      have inside : nanosPerSecond ≤ instant.nano := of_decide_eq_true leap
      rw [if_pos leap] at added
      simp only [nanosPerSecond] at inside
      split at added
      · next leaves =>
          -- The extra second is used up, and the next one has begun.
          apply lt_of_ofCount?_next added
          simp only [count, nanosPerSecond] at leaves ⊢
          omega
      · next stays =>
          rw [if_neg (by simp only [nanosPerSecond]; omega)] at added
          obtain ⟨second, nano⟩ := eq_of_of? added
          rw [lt_iff, second, nano]
          refine Or.inr ⟨rfl, ?_⟩
          simp only [nanosPerSecond] at stays ⊢
          omega

end Time.Instant

/-! ### Timers -/

/-- What a usable policy guarantees about new codes. -/
theorem Policy.positive_of_validate {policy : Policy} (usable : policy.validate = .ok ()) :
    1 ≤ policy.codeLength ∧ Duration.zero < policy.codeLifetime ∧
      Duration.zero < policy.resendCooldown := by
  unfold validate at usable
  split at usable
  · cases usable
  · next length =>
      split at usable
      · cases usable
      · next lifetime =>
          split at usable
          · cases usable
          · next cooldown =>
              exact ⟨Nat.pos_of_ne_zero length, Int.not_le.mp lifetime, Int.not_le.mp cooldown⟩

end Enrolment
