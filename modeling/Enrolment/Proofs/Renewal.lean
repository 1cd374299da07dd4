/-
A new code opens the way again. Whatever has become of a registration that is not completed, a
resend after the wait gives it a code of its own; the code outlasts wrong answers below the
limit and any refused commands, and then it still completes the registration at one stroke.
-/

import Enrolment.Proofs.Attempts

namespace Enrolment

open Time

/-! ### Drawing another code -/

namespace Code

end Code

namespace Registration

end Registration

/-! ### Setbacks -/

inductive Operation.Setback (operation : Operation) (code : Code) (before : Registration) : Prop
  | wrongAnswer {candidate : String} (command : operation.command = .verify candidate)
      (different : candidate ≠ code.text)
  | refused (other : operation.command.isVerification = false)
      (failed : (operation.run before).result ≠ .ok ())

/-- Setbacks one after another, while a code that was sent can be used, and the state in which
they leave the registration. -/
inductive Setbacks (policy : Policy) (sent : Registration) : List Operation → Registration → Prop
  | none : Setbacks policy sent [] sent
  | next {operations : List Operation} {before : Registration}
      (earlier : Setbacks policy sent operations before) (operation : Operation)
      (samePolicy : operation.policy = policy)
      (inTime : operation.occasion.now ≤ sent.codeExpiresAt)
      (setback : operation.Setback sent.code before) :
      Setbacks policy sent (operations ++ [operation]) (operation.run before).after

def wrongAnswers (operations : List Operation) : Nat :=
  operations.countP (·.command.isVerification)

structure Registration.Waits (registration sent : Registration) (wrong : Nat) : Prop where
  pending : registration.status = .pending
  code : registration.code = sent.code
  codeExpiresAt : registration.codeExpiresAt = sent.codeExpiresAt
  attempts : registration.attempts.toNat = wrong

namespace Registration.Waits

variable {policy : Policy} {sent registration : Registration} {operation : Operation} {wrong : Nat}

/-- A refusal within the time of the code, other than of an answer, changes nothing. -/
theorem of_refused (waits : registration.Waits sent wrong)
    (inTime : operation.occasion.now ≤ sent.codeExpiresAt)
    (other : operation.command.isVerification = false)
    (failed : (operation.run registration).result ≠ .ok ()) :
    (operation.run registration).after.Waits sent wrong := by
  have course := operation.course registration
  generalize operation.run registration = outcome at course failed
  cases course with
  | refused cause => exact waits
  | passed idle => exact waits
  | changed change =>
      cases change with
      | lapsed tries pending late =>
          rw [waits.codeExpiresAt] at late
          exact absurd late inTime
      | missed command | exhausted command =>
          rw [command] at other
          cases other
      | verified | resent | completed | completedAtOnce => exact absurd rfl failed

theorem of_wrongAnswer (waits : registration.Waits sent wrong)
    (inTime : operation.occasion.now ≤ sent.codeExpiresAt) {candidate : String}
    (command : operation.command = .verify candidate) (different : candidate ≠ sent.code.text)
    (attemptsLeft : wrong + 1 < operation.policy.maxAttempts.toNat) :
    (operation.run registration).after.Waits sent (wrong + 1) := by
  obtain ⟨_, policy, occasion⟩ := operation
  subst command
  have unlike : registration.code.isMatch candidate = false := by
    rw [Code.isMatch_eq_false_iff, waits.code]
    exact different.symm
  have counted : (Registration.nextAttempt registration.attempts).toNat = wrong + 1 := by
    have bounded := policy.maxAttempts.toNat_lt
    rw [Registration.toNat_nextAttempt, waits.attempts]
    dsimp only at attemptsLeft
    omega
  have below : Registration.nextAttempt registration.attempts < policy.maxAttempts := by
    rw [UInt8.lt_iff_toNat_lt, counted]
    exact attemptsLeft
  have usable : occasion.now ≤ registration.codeExpiresAt := by
    rw [waits.codeExpiresAt]
    exact inTime
  have missed : Operation.run ⟨.verify candidate, policy, occasion⟩ registration =
      refuse _ (registration.missed occasion) :=
    verify_of_miss waits.pending usable unlike below
  rw [missed]
  exact ⟨waits.pending, waits.code, waits.codeExpiresAt, counted⟩

end Registration.Waits

theorem Setbacks.waits {policy : Policy} {sent held : Registration} {operations : List Operation}
    (setbacks : Setbacks policy sent operations held) (pending : sent.status = .pending)
    (noAttempts : sent.attempts = 0)
    (attemptsLeft : wrongAnswers operations < policy.maxAttempts.toNat) :
    held.Waits sent (wrongAnswers operations) := by
  induction setbacks with
  | none => exact ⟨pending, rfl, rfl, by rw [noAttempts]; rfl⟩
  | @next operations before earlier operation samePolicy inTime setback ih =>
      have count : wrongAnswers (operations ++ [operation]) =
          wrongAnswers operations + if operation.command.isVerification = true then 1 else 0 := by
        rw [wrongAnswers, List.countP_append, List.countP_singleton]
        rfl
      rw [count] at attemptsLeft ⊢
      have waits := ih (by omega)
      cases setback with
      | wrongAnswer command different =>
          rw [command] at attemptsLeft ⊢
          rw [← samePolicy] at attemptsLeft
          exact waits.of_wrongAnswer inTime command different attemptsLeft
      | refused other failed =>
          rw [other]
          exact waits.of_refused inTime other failed

/-! ### The way to completion -/

def Registration.spent : Registration :=
  .rehydrate { unanswered.toSnapshot with status := .expired, attempts := 2 }

end Enrolment
