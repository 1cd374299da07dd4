/-
How far one instant is from another, and what addition has to do with it. A sum is reckoned as
if the leap second of the instant that it starts from were the only one there is; on the line of
seconds that this makes every sum is exact, and there is one as long as the line goes on.
-/

import Enrolment.Proofs.Chronology

namespace Enrolment.Time

/-! ### Parts of spans -/

namespace Duration

theorem parts (span : Duration) :
    span.wholeSeconds * nanosPerSecond + span.subsecondNanos = span.nanos := by
  rw [Int.mul_comm]
  exact Int.mul_tdiv_add_tmod span.nanos nanosPerSecond

theorem parts_of_nonneg {span : Duration} (forward : 0 ≤ span.nanos) :
    0 ≤ span.wholeSeconds ∧ 0 ≤ span.subsecondNanos ∧ span.subsecondNanos < nanosPerSecond :=
  ⟨Int.tdiv_nonneg forward (Int.natCast_nonneg _), Int.tmod_nonneg _ forward,
    Int.tmod_lt_of_pos _ (by decide)⟩

theorem parts_of_neg {span : Duration} (back : span.nanos < 0) :
    span.wholeSeconds ≤ 0 ∧ span.subsecondNanos ≤ 0 ∧
      -nanosPerSecond < span.subsecondNanos := by
  have reversed : 0 ≤ -span.nanos := by omega
  have whole := Int.tdiv_nonneg reversed (Int.natCast_nonneg nanosPerSecond)
  have part := Int.tmod_nonneg (nanosPerSecond : Int) reversed
  rw [Int.neg_tdiv] at whole
  rw [Int.neg_tmod] at part
  refine ⟨?_, ?_, Int.lt_tmod_of_pos _ (by decide)⟩
  · exact Int.neg_nonneg.mp whole
  · exact Int.neg_nonneg.mp part

end Duration

namespace Instant

/-! ### The line of an instant -/

/-- An instant outside leap seconds, or in the same leap second as the one that is looked from. -/
def InLine (origin instant : Instant) : Prop :=
  instant.inLeapSecond = true → origin.inLeapSecond = true ∧ instant.second = origin.second

/-- Nanoseconds from the origin, whose leap second is counted if it is left behind. -/
def elapsed (origin instant : Instant) : Int :=
  instant.count - origin.count +
    if origin.inLeapSecond = true ∧ origin.second < instant.second then (nanosPerSecond : Int)
    else 0

structure IsSum (origin : Instant) (span : Duration) (instant : Instant) : Prop where
  inLine : origin.InLine instant
  elapsed : origin.elapsed instant = span.nanos

theorem inLeapSecond_iff {instant : Instant} :
    instant.inLeapSecond = true ↔ nanosPerSecond ≤ instant.nano :=
  decide_eq_true_iff

theorem nano_lt (instant : Instant) : instant.nano < 2 * nanosPerSecond :=
  instant.valid.2.2.1

/-- The leap second of the origin has been left behind, or it has no part in the distance. -/
theorem elapsed_cases (origin instant : Instant) :
    (nanosPerSecond ≤ origin.nano ∧ origin.second < instant.second) ∧
        origin.elapsed instant = instant.count - origin.count + nanosPerSecond ∨
      ¬ (nanosPerSecond ≤ origin.nano ∧ origin.second < instant.second) ∧
        origin.elapsed instant = instant.count - origin.count := by
  rw [← inLeapSecond_iff, elapsed]
  by_cases passed : origin.inLeapSecond = true ∧ origin.second < instant.second
  · exact Or.inl ⟨passed, by rw [if_pos passed]⟩
  · exact Or.inr ⟨passed, by rw [if_neg passed, Int.add_zero]⟩

/-! ### Addition -/

theorem of?_eq_some_iff {second : Int} {nano : Nat} {instant : Instant} :
    of? second nano = some instant ↔ instant.second = second ∧ instant.nano = nano := by
  constructor
  · exact eq_of_of?
  · rintro ⟨rfl, rfl⟩
    rw [of?, dif_pos instant.valid]

theorem ofCount?_eq_some_iff {count : Int} {instant : Instant} :
    ofCount? count = some instant ↔
      instant.count = count ∧ instant.nano < nanosPerSecond := by
  rw [ofCount?, of?_eq_some_iff, Instant.count]
  simp only [nanosPerSecond]
  omega

/-- Addition is exact on the line of the instant that it starts from. -/
theorem add?_eq_some_iff {origin instant : Instant} {span : Duration} :
    origin.add? span = some instant ↔ origin.IsSum span instant := by
  have parts := span.parts
  have originBound := origin.nano_lt
  have instantBound := instant.nano_lt
  have elapsed := origin.elapsed_cases instant
  have exactly : origin.IsSum span instant ↔
      origin.InLine instant ∧ origin.elapsed instant = span.nanos :=
    ⟨fun isSum => ⟨isSum.inLine, isSum.elapsed⟩, fun both => ⟨both.1, both.2⟩⟩
  rw [exactly, InLine, add?]
  simp only [inLeapSecond_iff]
  by_cases leap : nanosPerSecond ≤ origin.nano
  · rw [if_pos leap]
    rcases Int.lt_or_le span.nanos 0 with back | forward
    · have bounds := Duration.parts_of_neg back
      rw [if_neg (by omega)]
      split
      · rw [ofCount?_eq_some_iff]
        simp only [count, nanosPerSecond] at *
        omega
      · rw [of?_eq_some_iff]
        simp only [count, nanosPerSecond] at *
        omega
    · have bounds := Duration.parts_of_nonneg forward
      split
      · rw [ofCount?_eq_some_iff]
        simp only [count, nanosPerSecond] at *
        omega
      · rw [if_neg (by omega), of?_eq_some_iff]
        simp only [count, nanosPerSecond] at *
        omega
  · rw [if_neg leap, ofCount?_eq_some_iff]
    simp only [count, nanosPerSecond] at *
    omega

/-! ### Range -/

end Instant

end Enrolment.Time
