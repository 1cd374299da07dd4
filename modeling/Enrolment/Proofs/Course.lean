/-
Every way in which an operation on a registration can end. An operation that is
refused, or that has nothing to do, leaves the registration as it was; each
other course says which state follows, which events were recorded and under
which conditions this happens. All later facts about operations start here.
-/

import Enrolment.Mutation
import Enrolment.Proofs.Drawing

namespace Enrolment

open Time

def Command.candidate? : Command → Option String
  | .verify candidate | .check candidate | .complete candidate _ _ => some candidate
  | .resend => none

namespace Registration

/-! ### Recording -/

def eventFor (occasion : Occasion) (eventId : Uuid) (body : EventBody)
    (registration : Registration) : Event :=
  { version := Event.currentVersion
    id := eventId
    registrationId := registration.id
    timestamp := occasion.now
    correlationId := occasion.correlationId
    causationId := registration.recorder.last?.map Event.id
    email := registration.email
    body }

@[simp] theorem record_events (occasion : Occasion) (eventId : Uuid) (body : EventBody)
    (registration : Registration) :
    (registration.record occasion eventId body).recorder.events =
      registration.recorder.events ++ [registration.eventFor occasion eventId body] := rfl

@[simp] theorem rehydrate_events (snapshot : Snapshot) :
    (rehydrate snapshot).recorder.events = [] := rfl

/-! ### Moving through the lifecycle -/

theorem advance_expire {registration : Registration} (operation : String)
    (pending : registration.status = .pending) :
    registration.advance .expire operation =
      .ok ({ registration with status := .expired }, .changed) := by
  simp [advance, Lifecycle.step, Lifecycle.target?, pending]

theorem advance_expire_again {registration : Registration} (operation : String)
    (expired : registration.status = .expired) :
    registration.advance .expire operation = .ok (registration, .unchanged) := by
  simp only [advance, Lifecycle.step, Lifecycle.target?, expired]
  simp [← expired]

theorem advance_verify {registration : Registration} (operation : String)
    (pending : registration.status = .pending) :
    registration.advance .verify operation =
      .ok ({ registration with status := .verified }, .changed) := by
  simp [advance, Lifecycle.step, Lifecycle.target?, pending]

theorem advance_exhaustAttempts {registration : Registration} (operation : String)
    (pending : registration.status = .pending) :
    registration.advance .exhaustAttempts operation =
      .ok ({ registration with status := .expired }, .changed) := by
  simp [advance, Lifecycle.step, Lifecycle.target?, pending]

theorem advance_resend {registration : Registration} (operation : String)
    (open' : registration.status ≠ .completed) :
    registration.advance .resend operation =
      .ok ({ registration with status := .pending }, .changed) := by
  cases status : registration.status with
  | completed => exact absurd status open'
  | pending | expired | verified =>
      simp [advance, Lifecycle.step, Lifecycle.target?, status]

theorem advance_complete {registration : Registration} (operation : String)
    (verified : registration.status = .verified) :
    registration.advance .complete operation =
      .ok ({ registration with status := .completed }, .changed) := by
  simp [advance, Lifecycle.step, Lifecycle.target?, verified]

/-! ### States that operations lead to -/

def lapsed (occasion : Occasion) (registration : Registration) : Registration :=
  { registration with status := .expired, updatedAt := occasion.now }

def missed (occasion : Occasion) (registration : Registration) : Registration :=
  { registration with
    attempts := nextAttempt registration.attempts
    updatedAt := occasion.now }

def exhausted (occasion : Occasion) (eventId : Uuid) (registration : Registration) :
    Registration :=
  record occasion eventId (.failed .tooManyAttempts)
    { registration.missed occasion with status := .expired }

def confirmed (occasion : Occasion) (eventId : Uuid) (registration : Registration) :
    Registration :=
  record occasion eventId .emailVerified
    { registration with status := .verified, updatedAt := occasion.now }

def renewed (occasion : Occasion) (code : Code) (codeExpiresAt resendTimeout : Instant)
    (registration : Registration) : Registration :=
  record occasion occasion.eventId (.codeResent code)
    { registration with
      code, codeExpiresAt, resendTimeout
      status := .pending
      attempts := 0
      updatedAt := occasion.now }

def concluded (occasion : Occasion) (account : Account) (passwordHash : PasswordHash)
    (registration : Registration) : Registration :=
  record occasion occasion.eventId (.completed account passwordHash)
    { registration with status := .completed, updatedAt := occasion.now }

/-! ### Verification -/

section Verification

variable {policy : Policy} {occasion : Occasion} {eventId : Uuid} {candidate : String}
  {registration : Registration}

theorem verify_of_late (pending : registration.status = .pending)
    (late : registration.codeExpiresAt < occasion.now) :
    registration.verify policy occasion eventId candidate =
      refuse (.codeExpired registration.codeExpiresAt) (registration.lapsed occasion) := by
  simp [verify, pending, late, advance_expire _ pending, lapsed]

theorem verify_of_late_again (expired : registration.status = .expired)
    (late : registration.codeExpiresAt < occasion.now) :
    registration.verify policy occasion eventId candidate =
      registration.refuse (.codeExpired registration.codeExpiresAt) := by
  simp [verify, expired, late, advance_expire_again _ expired]

theorem verify_of_not_pending (other : registration.status ≠ .pending)
    (inTime : registration.status = .expired → occasion.now ≤ registration.codeExpiresAt) :
    registration.verify policy occasion eventId candidate =
      registration.refuse (.invalidStatus "verify_code" registration.status) := by
  have first : ¬ ((registration.status = .pending ∨ registration.status = .expired) ∧
      registration.codeExpiresAt < occasion.now) := by
    rintro ⟨pending | expired, late⟩
    · exact other pending
    · exact inTime expired late
  rw [verify, if_neg first, if_pos other]

theorem verify_eq_of_in_time (pending : registration.status = .pending)
    (inTime : occasion.now ≤ registration.codeExpiresAt) :
    registration.verify policy occasion eventId candidate =
      if registration.code.isMatch candidate then done (registration.confirmed occasion eventId)
      else if nextAttempt registration.attempts < policy.maxAttempts then
        refuse (.codeMismatch (policy.maxAttempts - nextAttempt registration.attempts))
          (registration.missed occasion)
      else
        refuse (.tooManyAttempts policy.maxAttempts)
          (registration.exhausted occasion eventId) := by
  have first : ¬ ((registration.status = .pending ∨ registration.status = .expired) ∧
      registration.codeExpiresAt < occasion.now) := fun both => inTime both.2
  have counted : ({ registration with
      attempts := nextAttempt registration.attempts
      updatedAt := occasion.now } : Registration).status = .pending := pending
  rw [verify, if_neg first, if_neg (not_not_intro pending), advance_verify _ pending]
  simp only [advance_exhaustAttempts _ counted]
  rfl

theorem verify_of_match (pending : registration.status = .pending)
    (inTime : occasion.now ≤ registration.codeExpiresAt)
    (same : registration.code.isMatch candidate = true) :
    registration.verify policy occasion eventId candidate =
      done (registration.confirmed occasion eventId) := by
  rw [verify_eq_of_in_time pending inTime, if_pos same]

theorem verify_of_miss (pending : registration.status = .pending)
    (inTime : occasion.now ≤ registration.codeExpiresAt)
    (different : registration.code.isMatch candidate = false)
    (attemptsLeft : nextAttempt registration.attempts < policy.maxAttempts) :
    registration.verify policy occasion eventId candidate =
      refuse (.codeMismatch (policy.maxAttempts - nextAttempt registration.attempts))
        (registration.missed occasion) := by
  rw [verify_eq_of_in_time pending inTime, if_neg (by simp [different]), if_pos attemptsLeft]

theorem verify_of_last_miss (pending : registration.status = .pending)
    (inTime : occasion.now ≤ registration.codeExpiresAt)
    (different : registration.code.isMatch candidate = false)
    (noneLeft : ¬ nextAttempt registration.attempts < policy.maxAttempts) :
    registration.verify policy occasion eventId candidate =
      refuse (.tooManyAttempts policy.maxAttempts)
        (registration.exhausted occasion eventId) := by
  rw [verify_eq_of_in_time pending inTime, if_neg (by simp [different]), if_neg noneLeft]

/-- Without a code that waits for its answer verification fails, in one of three ways. -/
theorem verify_of_not_answerable
    (notAnswerable : ¬ (registration.status = .pending ∧
      occasion.now ≤ registration.codeExpiresAt)) :
    (registration.status = .pending ∧ registration.codeExpiresAt < occasion.now ∧
      registration.verify policy occasion eventId candidate =
        refuse (.codeExpired registration.codeExpiresAt) (registration.lapsed occasion)) ∨
    (registration.status = .expired ∧ registration.codeExpiresAt < occasion.now ∧
      registration.verify policy occasion eventId candidate =
        registration.refuse (.codeExpired registration.codeExpiresAt)) ∨
    (registration.status ≠ .pending ∧
      (registration.status = .expired → occasion.now ≤ registration.codeExpiresAt) ∧
      registration.verify policy occasion eventId candidate =
        registration.refuse (.invalidStatus "verify_code" registration.status)) := by
  by_cases late : registration.codeExpiresAt < occasion.now
  · by_cases pending : registration.status = .pending
    · exact Or.inl ⟨pending, late, verify_of_late pending late⟩
    by_cases expired : registration.status = .expired
    · exact Or.inr (Or.inl ⟨expired, late, verify_of_late_again expired late⟩)
    have inTime : registration.status = .expired →
        occasion.now ≤ registration.codeExpiresAt := fun same => absurd same expired
    exact Or.inr (Or.inr ⟨pending, inTime, verify_of_not_pending pending inTime⟩)
  · have other : registration.status ≠ .pending :=
      fun pending => notAnswerable ⟨pending, late⟩
    exact Or.inr (Or.inr ⟨other, fun _ => late, verify_of_not_pending other (fun _ => late)⟩)

theorem eq_confirmed_of_verify_ok {after : Registration}
    (succeeded : registration.verify policy occasion eventId candidate = after.done) :
    after = registration.confirmed occasion eventId := by
  have result : (registration.verify policy occasion eventId candidate).result = .ok () := by
    rw [succeeded]
    rfl
  by_cases answerable :
      registration.status = .pending ∧ occasion.now ≤ registration.codeExpiresAt
  · rw [verify_eq_of_in_time answerable.1 answerable.2] at succeeded result
    split at succeeded
    · exact (congrArg Outcome.after succeeded).symm
    · next different =>
        rw [if_neg different] at result
        split at result <;> cases result
  · rcases verify_of_not_answerable answerable with
      ⟨_, _, refused⟩ | ⟨_, _, refused⟩ | ⟨_, _, refused⟩
    all_goals
      rw [refused] at result
      cases result

theorem ensureVerified_of_verified (verified : registration.status = .verified) :
    registration.ensureVerified policy occasion candidate = registration.done := by
  rw [ensureVerified, if_pos verified]

theorem ensureVerified_of_not_verified (notVerified : registration.status ≠ .verified) :
    registration.ensureVerified policy occasion candidate =
      registration.verify policy occasion occasion.verificationId candidate := by
  rw [ensureVerified, if_neg notVerified]

end Verification

theorem check_after (occasion : Occasion) (candidate : String) (registration : Registration) :
    (registration.check occasion candidate).after = registration := by
  unfold check
  split
  · rfl
  · split
    · rfl
    · split <;> rfl

/-! ### Completion -/

section Completion

variable {policy : Policy} {occasion : Occasion} {candidate : String} {account : Account}
  {passwordHash : PasswordHash} {registration after : Registration}

theorem complete_of_wrong_code (different : registration.code.isMatch candidate = false) :
    registration.complete policy occasion candidate account passwordHash =
      registration.refuse .invalidCode := by
  rw [complete, if_pos different]

theorem complete_of_completed (same : registration.code.isMatch candidate = true)
    (completed : registration.status = .completed) :
    registration.complete policy occasion candidate account passwordHash =
      registration.done := by
  rw [complete, if_neg (by simp [same]), if_pos completed]

theorem complete_of_unusable (same : registration.code.isMatch candidate = true)
    (notCompleted : registration.status ≠ .completed) {cause : ProfileError}
    (unusable : account.validate = .error cause) :
    registration.complete policy occasion candidate account passwordHash =
      registration.refuse (.invalidProfile cause) := by
  rw [complete, if_neg (by simp [same]), if_neg notCompleted, unusable]

theorem complete_of_refused (same : registration.code.isMatch candidate = true)
    (notCompleted : registration.status ≠ .completed) (usable : account.validate = .ok ())
    {error : RegistrationError}
    (refused : registration.ensureVerified policy occasion candidate = after.refuse error) :
    registration.complete policy occasion candidate account passwordHash =
      after.refuse error := by
  rw [complete, if_neg (by simp [same]), if_neg notCompleted]
  simp only [usable, refused, refuse]

theorem complete_of_ensured (same : registration.code.isMatch candidate = true)
    (notCompleted : registration.status ≠ .completed) (usable : account.validate = .ok ())
    (ensured : registration.ensureVerified policy occasion candidate = after.done)
    (verified : after.status = .verified) :
    registration.complete policy occasion candidate account passwordHash =
      (after.concluded occasion account passwordHash).done := by
  rw [complete, if_neg (by simp [same]), if_neg notCompleted]
  simp only [usable, ensured, done, advance_complete _ verified]
  rfl

/-- A completion with the right answer verifies the registration on the way. -/
theorem complete_of_pending (same : registration.code.isMatch candidate = true)
    (pending : registration.status = .pending)
    (inTime : occasion.now ≤ registration.codeExpiresAt) (usable : account.validate = .ok ()) :
    registration.complete policy occasion candidate account passwordHash =
      ((registration.confirmed occasion occasion.verificationId).concluded occasion account
        passwordHash).done := by
  have notCompleted : registration.status ≠ .completed := by
    rw [pending]
    exact Status.noConfusion
  have notVerified : registration.status ≠ .verified := by
    rw [pending]
    exact Status.noConfusion
  have ensured : registration.ensureVerified policy occasion candidate =
      done (registration.confirmed occasion occasion.verificationId) :=
    (ensureVerified_of_not_verified notVerified).trans (verify_of_match pending inTime same)
  exact complete_of_ensured same notCompleted usable ensured rfl

end Completion

/-! ### Failures to renew a code -/

theorem timers_error {policy : Policy} {now : Instant} {error : RegistrationError}
    (failed : timers policy now = .error error) : ∃ field, error = .timestampOverflow field := by
  have overflow (span : Duration) (field : String) :
      deadline now span field = .error (.timestampOverflow field) ∨
        ∃ instant, deadline now span field = .ok instant := by
    cases added : now.add? span with
    | none => exact Or.inl (by simp [deadline, added])
    | some instant => exact Or.inr ⟨instant, by simp [deadline, added]⟩
  rcases overflow policy.codeLifetime "code_expires_at" with first | ⟨_, first⟩
  · simp only [timers, first, bind, Except.bind, Except.error.injEq] at failed
    exact ⟨_, failed.symm⟩
  · rcases overflow policy.resendCooldown "resend_timeout" with second | ⟨_, second⟩
    · simp only [timers, first, second, bind, Except.bind, Except.error.injEq] at failed
      exact ⟨_, failed.symm⟩
    · simp [timers, first, second, bind, Except.bind, pure, Except.pure] at failed

/-! ### Issue -/

def issued (occasion : Occasion) (id : RegistrationId) (email : Email) (code : Code)
    (codeExpiresAt resendTimeout : Instant) : Registration :=
  record occasion occasion.eventId (.started code)
    { id, email, code, codeExpiresAt, resendTimeout
      status := .pending
      attempts := 0
      createdAt := occasion.now
      updatedAt := occasion.now
      recorder := .empty }

theorem issue_eq_ok {policy : Policy} {occasion : Occasion} {id : RegistrationId}
    {text : String} {registration : Registration}
    (succeeded : issue policy occasion id text = .ok registration) :
    ∃ email code unused codeExpiresAt resendTimeout,
      Email.parse text = .ok email ∧
      Code.generate policy.codeLength occasion.entropy = .ok (code, unused) ∧
      timers policy occasion.now = .ok (codeExpiresAt, resendTimeout) ∧
      registration = issued occasion id email code codeExpiresAt resendTimeout := by
  unfold issue at succeeded
  cases parsed : Email.parse text with
  | error cause => rw [parsed] at succeeded; cases succeeded
  | ok email =>
      cases drawn : Code.generate policy.codeLength occasion.entropy with
      | error cause => rw [parsed, drawn] at succeeded; cases succeeded
      | ok pair =>
          cases set : timers policy occasion.now with
          | error cause => rw [parsed, drawn, set] at succeeded; cases succeeded
          | ok instants =>
              rw [parsed, drawn, set] at succeeded
              exact ⟨email, pair.1, pair.2, instants.1, instants.2, rfl, rfl, rfl,
                (Except.ok.inj succeeded).symm⟩

theorem timers_eq_ok {policy : Policy} {now codeExpiresAt resendTimeout : Instant}
    (set : timers policy now = .ok (codeExpiresAt, resendTimeout)) :
    now.add? policy.codeLifetime = some codeExpiresAt ∧
      now.add? policy.resendCooldown = some resendTimeout := by
  cases expiry : now.add? policy.codeLifetime with
  | none => simp [timers, deadline, expiry, bind, Except.bind] at set
  | some first =>
      cases cooldown : now.add? policy.resendCooldown with
      | none => simp [timers, deadline, expiry, cooldown, bind, Except.bind] at set
      | some second =>
          simpa [timers, deadline, expiry, cooldown, bind, Except.bind, pure, Except.pure]
            using set

end Registration

namespace Code

theorem generateDistinct_error {length : Nat} {previous : Code} {blocks : List Block}
    {error : RegistrationError}
    (failed : generateDistinct length previous blocks = .error error) :
    ∃ reason, error = .codeGeneration reason := by
  cases length with
  | zero => exact ⟨_, (Except.error.inj failed).symm⟩
  | succ length =>
      obtain ⟨_, _, _, result, _⟩ := generateDistinct_spec (Nat.succ_pos length) previous blocks
      rw [result] at failed
      exact ⟨_, generate_error failed⟩

end Code

/-! ### Courses -/

/-- The operation comes to the point where the candidate is verified. A completion
comes there only with the right code, a usable profile and a registration that is
neither verified nor completed. -/
inductive Operation.Tries (operation : Operation) (before : Registration)
    (candidate : String) : Prop
  | verify (command : operation.command = .verify candidate)
  | complete (account : Account) (passwordHash : PasswordHash)
      (command : operation.command = .complete candidate account passwordHash)
      (same : before.code.isMatch candidate = true)
      (notCompleted : before.status ≠ .completed)
      (notVerified : before.status ≠ .verified)
      (usable : account.validate = .ok ())

inductive Operation.Refusal (operation : Operation) (before : Registration) :
    RegistrationError → Prop
  | lateAgain {candidate : String} (tries : operation.Tries before candidate)
      (expired : before.status = .expired)
      (late : before.codeExpiresAt < operation.occasion.now) :
      Refusal operation before (.codeExpired before.codeExpiresAt)
  | notPending {candidate : String} (tries : operation.Tries before candidate)
      (other : before.status ≠ .pending)
      (inTime : before.status = .expired → operation.occasion.now ≤ before.codeExpiresAt) :
      Refusal operation before (.invalidStatus "verify_code" before.status)
  | verifyFirst {candidate : String} (command : operation.command = .check candidate)
      (notVerified : before.status ≠ .verified) :
      Refusal operation before .verifyFirst
  | checkedLate {candidate : String} (command : operation.command = .check candidate)
      (verified : before.status = .verified)
      (late : before.codeExpiresAt < operation.occasion.now) :
      Refusal operation before (.codeExpired before.codeExpiresAt)
  | checkedWrong {candidate : String} (command : operation.command = .check candidate)
      (verified : before.status = .verified)
      (inTime : operation.occasion.now ≤ before.codeExpiresAt)
      (different : before.code.isMatch candidate = false) :
      Refusal operation before .invalidCode
  | throttled (command : operation.command = .resend)
      (early : operation.occasion.now ≤ before.resendTimeout) :
      Refusal operation before
        (.resendThrottled (before.resendTimeout.since operation.occasion.now))
  | alreadyCompleted (command : operation.command = .resend)
      (waited : before.resendTimeout < operation.occasion.now)
      (completed : before.status = .completed) :
      Refusal operation before .registrationCompleted
  | timerOverflow {field : String} (command : operation.command = .resend)
      (waited : before.resendTimeout < operation.occasion.now)
      (notCompleted : before.status ≠ .completed)
      (overflow : Registration.timers operation.policy operation.occasion.now =
        .error (.timestampOverflow field)) :
      Refusal operation before (.timestampOverflow field)
  | noNewCode {reason : String} {codeExpiresAt resendTimeout : Instant}
      (command : operation.command = .resend)
      (waited : before.resendTimeout < operation.occasion.now)
      (notCompleted : before.status ≠ .completed)
      (timers : Registration.timers operation.policy operation.occasion.now =
        .ok (codeExpiresAt, resendTimeout))
      (exhausted : Code.generateDistinct operation.policy.codeLength before.code
        operation.occasion.entropy = .error (.codeGeneration reason)) :
      Refusal operation before (.codeGeneration reason)
  | wrongCode {candidate : String} {account : Account} {passwordHash : PasswordHash}
      (command : operation.command = .complete candidate account passwordHash)
      (different : before.code.isMatch candidate = false) :
      Refusal operation before .invalidCode
  | invalidProfile {candidate : String} {account : Account} {passwordHash : PasswordHash}
      {cause : ProfileError}
      (command : operation.command = .complete candidate account passwordHash)
      (same : before.code.isMatch candidate = true)
      (notCompleted : before.status ≠ .completed)
      (unusable : account.validate = .error cause) :
      Refusal operation before (.invalidProfile cause)

inductive Operation.Idle (operation : Operation) (before : Registration) : Prop
  | checked {candidate : String} (command : operation.command = .check candidate)
      (verified : before.status = .verified)
      (inTime : operation.occasion.now ≤ before.codeExpiresAt)
      (same : before.code.isMatch candidate = true)
  | completedBefore {candidate : String} {account : Account} {passwordHash : PasswordHash}
      (command : operation.command = .complete candidate account passwordHash)
      (same : before.code.isMatch candidate = true)
      (completed : before.status = .completed)

inductive Operation.Change (operation : Operation) (before : Registration) : Outcome → Prop
  | lapsed {candidate : String} (tries : operation.Tries before candidate)
      (pending : before.status = .pending)
      (late : before.codeExpiresAt < operation.occasion.now) :
      Change operation before
        ((before.lapsed operation.occasion).refuse (.codeExpired before.codeExpiresAt))
  | missed {candidate : String} (command : operation.command = .verify candidate)
      (pending : before.status = .pending)
      (inTime : operation.occasion.now ≤ before.codeExpiresAt)
      (different : before.code.isMatch candidate = false)
      (attemptsLeft : Registration.nextAttempt before.attempts < operation.policy.maxAttempts) :
      Change operation before
        ((before.missed operation.occasion).refuse
          (.codeMismatch
            (operation.policy.maxAttempts - Registration.nextAttempt before.attempts)))
  | exhausted {candidate : String} (command : operation.command = .verify candidate)
      (pending : before.status = .pending)
      (inTime : operation.occasion.now ≤ before.codeExpiresAt)
      (different : before.code.isMatch candidate = false)
      (noneLeft : ¬ Registration.nextAttempt before.attempts < operation.policy.maxAttempts) :
      Change operation before
        ((before.exhausted operation.occasion operation.occasion.eventId).refuse
          (.tooManyAttempts operation.policy.maxAttempts))
  | verified {candidate : String} (command : operation.command = .verify candidate)
      (pending : before.status = .pending)
      (inTime : operation.occasion.now ≤ before.codeExpiresAt)
      (same : before.code.isMatch candidate = true) :
      Change operation before
        (before.confirmed operation.occasion operation.occasion.eventId).done
  | resent {code : Code} {codeExpiresAt resendTimeout : Instant} {unused : List Code.Block}
      (command : operation.command = .resend)
      (waited : before.resendTimeout < operation.occasion.now)
      (notCompleted : before.status ≠ .completed)
      (timers : Registration.timers operation.policy operation.occasion.now =
        .ok (codeExpiresAt, resendTimeout))
      (drawn : Code.generateDistinct operation.policy.codeLength before.code
        operation.occasion.entropy = .ok (code, unused)) :
      Change operation before
        (before.renewed operation.occasion code codeExpiresAt resendTimeout).done
  | completed {candidate : String} {account : Account} {passwordHash : PasswordHash}
      (command : operation.command = .complete candidate account passwordHash)
      (verified : before.status = .verified)
      (same : before.code.isMatch candidate = true)
      (usable : account.validate = .ok ()) :
      Change operation before
        (before.concluded operation.occasion account passwordHash).done
  | completedAtOnce {candidate : String} {account : Account} {passwordHash : PasswordHash}
      (command : operation.command = .complete candidate account passwordHash)
      (pending : before.status = .pending)
      (inTime : operation.occasion.now ≤ before.codeExpiresAt)
      (same : before.code.isMatch candidate = true)
      (usable : account.validate = .ok ()) :
      Change operation before
        ((before.confirmed operation.occasion operation.occasion.verificationId).concluded
          operation.occasion account passwordHash).done

/-- How an operation on a registration ends. -/
inductive Operation.Course (operation : Operation) (before : Registration) : Outcome → Prop
  | refused {error : RegistrationError} (cause : operation.Refusal before error) :
      Course operation before (before.refuse error)
  | passed (idle : operation.Idle before) :
      Course operation before before.done
  | changed {outcome : Outcome} (change : operation.Change before outcome) :
      Course operation before outcome

namespace Operation

variable {policy : Policy} {occasion : Occasion} {before : Registration}

private theorem course_verify (candidate : String) :
    Course ⟨.verify candidate, policy, occasion⟩ before
      (before.verify policy occasion occasion.eventId candidate) := by
  by_cases answerable : before.status = .pending ∧ occasion.now ≤ before.codeExpiresAt
  · obtain ⟨pending, inTime⟩ := answerable
    cases same : before.code.isMatch candidate with
    | true =>
        rw [Registration.verify_of_match pending inTime same]
        exact .changed (.verified rfl pending inTime same)
    | false =>
        by_cases attemptsLeft : Registration.nextAttempt before.attempts < policy.maxAttempts
        · rw [Registration.verify_of_miss pending inTime same attemptsLeft]
          exact .changed (.missed rfl pending inTime same attemptsLeft)
        · rw [Registration.verify_of_last_miss pending inTime same attemptsLeft]
          exact .changed (.exhausted rfl pending inTime same attemptsLeft)
  · rcases Registration.verify_of_not_answerable answerable with
      ⟨pending, late, refused⟩ | ⟨expired, late, refused⟩ | ⟨other, inTime, refused⟩
    · rw [refused]
      exact .changed (.lapsed (.verify rfl) pending late)
    · rw [refused]
      exact .refused (.lateAgain (.verify rfl) expired late)
    · rw [refused]
      exact .refused (.notPending (.verify rfl) other inTime)

private theorem course_check (candidate : String) :
    Course ⟨.check candidate, policy, occasion⟩ before (before.check occasion candidate) := by
  unfold Registration.check
  split
  · next notVerified => exact .refused (.verifyFirst rfl notVerified)
  · next verified =>
      have verified := Decidable.not_not.mp verified
      split
      · next late => exact .refused (.checkedLate rfl verified late)
      · next inTime =>
          split
          · next same => exact .passed (.checked rfl verified inTime same)
          · next different =>
              exact .refused (.checkedWrong rfl verified inTime (by simpa using different))

private theorem course_resend :
    Course ⟨.resend, policy, occasion⟩ before (before.resend policy occasion) := by
  unfold Registration.resend
  split
  · next early => exact .refused (.throttled rfl early)
  · next early =>
      have waited : before.resendTimeout < occasion.now := Decidable.not_not.mp early
      split
      · next terminal =>
          exact .refused (.alreadyCompleted rfl waited (by simpa [Status.isTerminal] using terminal))
      · next nonterminal =>
          have notCompleted : before.status ≠ .completed := by
            simpa [Status.isTerminal] using nonterminal
          split
          · next timers =>
              obtain ⟨field, rfl⟩ := Registration.timers_error timers
              exact .refused (.timerOverflow rfl waited notCompleted timers)
          · next codeExpiresAt resendTimeout timers =>
              split
              · next drawn =>
                  obtain ⟨reason, rfl⟩ := Code.generateDistinct_error drawn
                  exact .refused (.noNewCode rfl waited notCompleted timers drawn)
              · next code unused drawn =>
                  rw [Registration.advance_resend _ notCompleted]
                  exact .changed (.resent rfl waited notCompleted timers drawn)

private theorem course_complete (candidate : String) (account : Account)
    (passwordHash : PasswordHash) :
    Course ⟨.complete candidate account passwordHash, policy, occasion⟩ before
      (before.complete policy occasion candidate account passwordHash) := by
  cases same : before.code.isMatch candidate with
  | false =>
      rw [Registration.complete_of_wrong_code same]
      exact .refused (.wrongCode rfl same)
  | true =>
      by_cases completed : before.status = .completed
      · rw [Registration.complete_of_completed same completed]
        exact .passed (.completedBefore rfl same completed)
      cases usable : account.validate with
      | error cause =>
          rw [Registration.complete_of_unusable same completed usable]
          exact .refused (.invalidProfile rfl same completed usable)
      | ok =>
          by_cases verified : before.status = .verified
          · rw [Registration.complete_of_ensured same completed usable
              (Registration.ensureVerified_of_verified verified) verified]
            exact .changed (.completed rfl verified same usable)
          have ensured : before.ensureVerified policy occasion candidate =
              before.verify policy occasion occasion.verificationId candidate :=
            Registration.ensureVerified_of_not_verified verified
          by_cases answerable :
              before.status = .pending ∧ occasion.now ≤ before.codeExpiresAt
          · obtain ⟨pending, inTime⟩ := answerable
            rw [Registration.complete_of_pending same pending inTime usable]
            exact .changed (.completedAtOnce rfl pending inTime same usable)
          · have tries : Tries ⟨.complete candidate account passwordHash, policy, occasion⟩
                before candidate :=
              .complete account passwordHash rfl same completed verified usable
            rcases Registration.verify_of_not_answerable answerable with
              ⟨pending, late, refused⟩ | ⟨expired, late, refused⟩ | ⟨other, inTime, refused⟩
            · rw [Registration.complete_of_refused same completed usable
                (ensured.trans refused)]
              exact .changed (.lapsed tries pending late)
            · rw [Registration.complete_of_refused same completed usable
                (ensured.trans refused)]
              exact .refused (.lateAgain tries expired late)
            · rw [Registration.complete_of_refused same completed usable
                (ensured.trans refused)]
              exact .refused (.notPending tries other inTime)

/-- Every operation takes one of the courses, whatever the registration and the policy. -/
theorem course (operation : Operation) (before : Registration) :
    Course operation before (operation.run before) := by
  obtain ⟨command, policy, occasion⟩ := operation
  cases command with
  | verify candidate => exact course_verify candidate
  | check candidate => exact course_check candidate
  | resend => exact course_resend
  | complete candidate account passwordHash =>
      exact course_complete candidate account passwordHash

end Operation

end Enrolment
