/-
Names of events steer nothing. An operation does the same to a registration under whatever
names it records its events, and whatever was recorded before them; the events then differ in
their names alone, and in the cause that each takes from the one before it.
-/

import Enrolment.Proofs.Course

namespace Enrolment

def Event.unnamed (event : Event) : Event :=
  { event with id := .nil, causationId := none }

def Occasion.renamed (eventId verificationId : Uuid) (occasion : Occasion) : Occasion :=
  { occasion with eventId, verificationId }

def Operation.renamed (eventId verificationId : Uuid) (operation : Operation) : Operation :=
  { operation with occasion := operation.occasion.renamed eventId verificationId }

/-- The same command at the same time, with the same random values, under other names. -/
def Operation.Alike (operation other : Operation) : Prop :=
  ∃ eventId verificationId, other = operation.renamed eventId verificationId

/-- One recorder holds the earlier events and then those of the other, names apart. -/
def Recorder.Continues (recorder : Recorder) (earlier : List Event) (other : Recorder) : Prop :=
  recorder.events.map Event.unnamed = (earlier ++ other.events).map Event.unnamed

structure Outcome.Continues (outcome : Outcome) (earlier : List Event) (other : Outcome) :
    Prop where
  result : outcome.result = other.result
  state : outcome.after.toSnapshot = other.after.toSnapshot
  recorder : outcome.after.recorder.Continues earlier other.after.recorder

namespace Recorder.Continues

variable {recorder other : Recorder} {earlier : List Event}

theorem empty (recorder : Recorder) : recorder.Continues recorder.events .empty := by
  unfold Recorder.Continues
  rw [Recorder.empty, List.append_nil]

theorem record (continues : recorder.Continues earlier other) {event same : Event}
    (alike : event.unnamed = same.unnamed) :
    (recorder.record event).Continues earlier (other.record same) := by
  unfold Recorder.Continues at continues ⊢
  simp only [Recorder.record, List.map_append, continues, List.map_singleton, alike,
    List.append_assoc]

end Recorder.Continues

/-! ### Operations -/

namespace Registration

variable {policy : Policy} {occasion : Occasion} {eventId verificationId : Uuid}
  {candidate : String} {snapshot : Snapshot} {recorder other : Recorder} {earlier : List Event}

theorem verify_continues (continues : recorder.Continues earlier other) (first second : Uuid) :
    (verify policy occasion first candidate ⟨snapshot, recorder⟩).Continues earlier
      (verify policy (occasion.renamed eventId verificationId) second candidate
        ⟨snapshot, other⟩) := by
  by_cases late : snapshot.codeExpiresAt < occasion.now
  · by_cases pending : snapshot.status = .pending
    · rw [verify_of_late pending late, verify_of_late pending late]
      exact ⟨rfl, rfl, continues⟩
    by_cases expired : snapshot.status = .expired
    · rw [verify_of_late_again expired late, verify_of_late_again expired late]
      exact ⟨rfl, rfl, continues⟩
    have inTime : snapshot.status = .expired → occasion.now ≤ snapshot.codeExpiresAt :=
      fun same => absurd same expired
    rw [verify_of_not_pending pending inTime, verify_of_not_pending pending inTime]
    exact ⟨rfl, rfl, continues⟩
  · have inTime : occasion.now ≤ snapshot.codeExpiresAt := late
    by_cases pending : snapshot.status = .pending
    · cases same : snapshot.code.isMatch candidate with
      | true =>
          rw [verify_of_match pending inTime same, verify_of_match pending inTime same]
          exact ⟨rfl, rfl, continues.record rfl⟩
      | false =>
          by_cases attemptsLeft : nextAttempt snapshot.attempts < policy.maxAttempts
          · rw [verify_of_miss pending inTime same attemptsLeft,
              verify_of_miss pending inTime same attemptsLeft]
            exact ⟨rfl, rfl, continues⟩
          · rw [verify_of_last_miss pending inTime same attemptsLeft,
              verify_of_last_miss pending inTime same attemptsLeft]
            exact ⟨rfl, rfl, continues.record rfl⟩
    · rw [verify_of_not_pending pending (fun _ => inTime),
        verify_of_not_pending pending (fun _ => inTime)]
      exact ⟨rfl, rfl, continues⟩

theorem ensureVerified_continues (continues : recorder.Continues earlier other) :
    (ensureVerified policy occasion candidate ⟨snapshot, recorder⟩).Continues earlier
      (ensureVerified policy (occasion.renamed eventId verificationId) candidate
        ⟨snapshot, other⟩) := by
  by_cases verified : snapshot.status = .verified
  · rw [ensureVerified_of_verified verified, ensureVerified_of_verified verified]
    exact ⟨rfl, rfl, continues⟩
  · rw [ensureVerified_of_not_verified verified, ensureVerified_of_not_verified verified]
    exact verify_continues continues _ _

theorem check_continues (continues : recorder.Continues earlier other) :
    (check occasion candidate ⟨snapshot, recorder⟩).Continues earlier
      (check (occasion.renamed eventId verificationId) candidate ⟨snapshot, other⟩) := by
  dsimp only [check, Occasion.renamed]
  by_cases unverified : snapshot.status ≠ .verified
  · rw [if_pos unverified, if_pos unverified]
    exact ⟨rfl, rfl, continues⟩
  rw [if_neg unverified, if_neg unverified]
  by_cases late : snapshot.codeExpiresAt < occasion.now
  · rw [if_pos late, if_pos late]
    exact ⟨rfl, rfl, continues⟩
  rw [if_neg late, if_neg late]
  cases snapshot.code.isMatch candidate with
  | true => exact ⟨rfl, rfl, continues⟩
  | false => exact ⟨rfl, rfl, continues⟩

theorem resend_continues (continues : recorder.Continues earlier other) :
    (resend policy occasion ⟨snapshot, recorder⟩).Continues earlier
      (resend policy (occasion.renamed eventId verificationId) ⟨snapshot, other⟩) := by
  dsimp only [resend, Occasion.renamed]
  by_cases early : occasion.now ≤ snapshot.resendTimeout
  · rw [if_pos early, if_pos early]
    exact ⟨rfl, rfl, continues⟩
  rw [if_neg early, if_neg early]
  by_cases terminal : snapshot.status.isTerminal = true
  · rw [if_pos terminal, if_pos terminal]
    exact ⟨rfl, rfl, continues⟩
  rw [if_neg terminal, if_neg terminal]
  have notCompleted : snapshot.status ≠ .completed := by
    simpa [Status.isTerminal] using terminal
  cases timers policy occasion.now with
  | error error => exact ⟨rfl, rfl, continues⟩
  | ok instants =>
      dsimp only
      cases Code.generateDistinct policy.codeLength snapshot.code occasion.entropy with
      | error error => exact ⟨rfl, rfl, continues⟩
      | ok drawn =>
          dsimp only
          rw [advance_resend _ notCompleted, advance_resend _ notCompleted]
          exact ⟨rfl, rfl, continues.record rfl⟩

theorem complete_continues (continues : recorder.Continues earlier other) {account : Account}
    {passwordHash : PasswordHash} :
    (complete policy occasion candidate account passwordHash ⟨snapshot, recorder⟩).Continues earlier
      (complete policy (occasion.renamed eventId verificationId) candidate account passwordHash
        ⟨snapshot, other⟩) := by
  cases same : snapshot.code.isMatch candidate with
  | false =>
      rw [complete_of_wrong_code same, complete_of_wrong_code same]
      exact ⟨rfl, rfl, continues⟩
  | true =>
      by_cases completed : snapshot.status = .completed
      · rw [complete_of_completed same completed, complete_of_completed same completed]
        exact ⟨rfl, rfl, continues⟩
      cases usable : account.validate with
      | error cause =>
          rw [complete_of_unusable same completed usable,
            complete_of_unusable same completed usable]
          exact ⟨rfl, rfl, continues⟩
      | ok =>
          have wrong : ¬ snapshot.code.isMatch candidate = false := by simp [same]
          rw [complete, complete, if_neg wrong, if_neg wrong, if_neg completed, if_neg completed]
          simp only [usable]
          have ensured : (ensureVerified policy occasion candidate ⟨snapshot, recorder⟩).Continues
              earlier (ensureVerified policy (occasion.renamed eventId verificationId) candidate
                ⟨snapshot, other⟩) := ensureVerified_continues continues
          generalize ensureVerified policy occasion candidate ⟨snapshot, recorder⟩ = first
            at ensured ⊢
          generalize ensureVerified policy (occasion.renamed eventId verificationId) candidate
            ⟨snapshot, other⟩ = second at ensured ⊢
          -- Verified on the way or refused, both are in one state again.
          obtain ⟨result, state, recorded⟩ := first
          obtain ⟨_, _, inner⟩ := second
          obtain ⟨rfl, rfl, ensured⟩ := ensured
          cases result with
          | error error => exact ⟨rfl, rfl, ensured⟩
          | ok =>
              dsimp only [advance]
              cases Lifecycle.step state.status .complete with
              | ok step => exact ⟨rfl, rfl, ensured.record rfl⟩
              | error failure =>
                  cases failure with
                  | businessRuleViolation => exact ⟨rfl, rfl, ensured⟩
                  | invalidTransition => exact ⟨rfl, rfl, ensured⟩

end Registration

theorem Operation.Alike.continues {operation other : Operation} (alike : operation.Alike other)
    (live : Registration) :
    (operation.run live).Continues live.recorder.events
      (other.run (.rehydrate live.toSnapshot)) := by
  obtain ⟨eventId, verificationId, rfl⟩ := alike
  obtain ⟨command, policy, occasion⟩ := operation
  have continues := Recorder.Continues.empty live.recorder
  cases command with
  | verify candidate => exact Registration.verify_continues continues _ _
  | check candidate => exact Registration.check_continues continues
  | resend => exact Registration.resend_continues continues
  | complete candidate account passwordHash => exact Registration.complete_continues continues

end Enrolment
