/-
What storage is told to keep after a single operation, for every registration and
every policy. A failure that is not persistent changes nothing; the decision keeps
exactly what changed; and no step of the lifecycle that an operation takes fails.
-/

import Enrolment.Proofs.Course

namespace Enrolment

def RegistrationError.IsAnswerFailure : RegistrationError → Prop
  | .codeExpired _ | .codeMismatch _ | .tooManyAttempts _ => True
  | _ => False

theorem RegistrationError.isPersistent_of_isAnswerFailure {error : RegistrationError}
    (failure : error.IsAnswerFailure) : error.isPersistent = true := by
  cases error with
  | codeExpired | codeMismatch | tooManyAttempts => rfl
  | _ => exact False.elim failure

/-! ### The decision for each outcome -/

namespace Mutation

variable {operation : Operation} {loaded after : Registration} {error : RegistrationError}

theorem not_changed_self (registration : Registration) :
    ¬ Changed registration registration := by
  simp [Changed]

theorem ofOperation_run_of_refused (ran : operation.run loaded = loaded.refuse error) :
    (ofOperation operation).run loaded = .reject error := by
  simp only [run, ofOperation, Script.run, ran, Registration.refuse]
  exact if_neg fun both => not_changed_self loaded both.1

theorem ofOperation_run_of_idle (ran : operation.run loaded = loaded.done) :
    (ofOperation operation).run loaded = .unchanged := by
  simp only [run, ofOperation, Script.run, ran, Registration.done]
  exact if_neg (not_changed_self loaded)

theorem ofOperation_run_of_done (ran : operation.run loaded = after.done)
    (changed : Changed loaded after) :
    (ofOperation operation).run loaded = .commit after := by
  simp only [run, ofOperation, Script.run, ran, Registration.done]
  exact if_pos changed

theorem ofOperation_run_of_failed (ran : operation.run loaded = after.refuse error)
    (changed : Changed loaded after) (persistent : error.isPersistent = true) :
    (ofOperation operation).run loaded = .commitAndFail after error := by
  simp only [run, ofOperation, Script.run, ran, Registration.refuse]
  exact if_pos ⟨changed, persistent⟩

end Mutation

namespace Registration

theorem toNat_nextAttempt (attempts : UInt8) :
    (nextAttempt attempts).toNat = min (attempts.toNat + 1) 255 := by
  unfold nextAttempt
  split
  · next full => subst full; rfl
  · next notFull =>
      have small : attempts.toNat ≠ 255 := fun same => notFull (UInt8.toNat_inj.mp same)
      have bounded := attempts.toNat_lt
      rw [UInt8.toNat_add]
      change (attempts.toNat + 1) % 256 = _
      omega

/-- Below a limit the count of attempts goes up; only the largest value stays. -/
theorem toNat_nextAttempt_of_lt {attempts limit : UInt8}
    (attemptsLeft : nextAttempt attempts < limit) :
    (nextAttempt attempts).toNat = attempts.toNat + 1 := by
  have below := UInt8.lt_iff_toNat_lt.mp attemptsLeft
  have limitBounded := limit.toNat_lt
  have counted := toNat_nextAttempt attempts
  omega

/-- Grows with every change, so that no later change can undo an earlier one. -/
def progress (registration : Registration) : Nat :=
  257 * registration.recorder.size +
    if registration.status = .pending then registration.attempts.toNat else 256

theorem progress_lt_of_recorded {loaded after : Registration} {event : Event}
    {more : List Event}
    (recorded : after.recorder.events = loaded.recorder.events ++ event :: more) :
    loaded.progress < after.progress := by
  have bounded := loaded.attempts.toNat_lt
  have longer : after.recorder.size = loaded.recorder.size + (more.length + 1) := by
    rw [Recorder.size, recorded, List.length_append]
    rfl
  unfold progress
  split
  · omega
  · omega

theorem progress_lt_lapsed {loaded : Registration} (occasion : Occasion)
    (pending : loaded.status = .pending) :
    loaded.progress < (loaded.lapsed occasion).progress := by
  have bounded := loaded.attempts.toNat_lt
  have last : (loaded.lapsed occasion).progress = 257 * loaded.recorder.size + 256 := rfl
  rw [last, progress, if_pos pending]
  omega

theorem progress_lt_missed {loaded : Registration} (occasion : Occasion) {limit : UInt8}
    (pending : loaded.status = .pending) (attemptsLeft : nextAttempt loaded.attempts < limit) :
    loaded.progress < (loaded.missed occasion).progress := by
  have counted := toNat_nextAttempt_of_lt attemptsLeft
  have stillPending : (loaded.missed occasion).status = .pending := pending
  rw [progress, progress, if_pos pending, if_pos stillPending]
  change _ < 257 * loaded.recorder.size + (nextAttempt loaded.attempts).toNat
  omega

/-- Progress that stands still is that of one state and one number of events. -/
theorem changed_of_progress {loaded after : Registration}
    (further : loaded.progress < after.progress) : Mutation.Changed loaded after := by
  apply Decidable.byContradiction
  intro same
  simp only [Mutation.Changed, not_or, Decidable.not_not] at same
  obtain ⟨state, size⟩ := same
  have stands : after.progress = loaded.progress := by
    unfold progress
    rw [size, state]
  omega

end Registration

/-! ### The decision for each course -/

/-- A refusal without change is never the failed answer to a pending registration. -/
theorem Operation.Refusal.not_pending {operation : Operation} {loaded : Registration}
    {error : RegistrationError} (cause : operation.Refusal loaded error)
    (failure : error.IsAnswerFailure) : loaded.status ≠ .pending := by
  intro pending
  cases cause with
  | lateAgain tries expired late => rw [pending] at expired; cases expired
  | checkedLate command verified late => rw [pending] at verified; cases verified
  | _ => exact failure

/-- What storage is told after an operation, with all that decides it. -/
inductive Operation.Decision (operation : Operation) (loaded : Registration) :
    Transition → Prop
  | rejected {error : RegistrationError} (cause : operation.Refusal loaded error)
      (ran : operation.run loaded = loaded.refuse error) :
      Decision operation loaded (.reject error)
  | unchanged (idle : operation.Idle loaded) (ran : operation.run loaded = loaded.done) :
      Decision operation loaded .unchanged
  | committed {after : Registration} {event : Event} {more : List Event}
      (ran : operation.run loaded = after.done)
      (recorded : after.recorder.events = loaded.recorder.events ++ event :: more) :
      Decision operation loaded (.commit after)
  | counted {after : Registration} {error : RegistrationError}
      (ran : operation.run loaded = after.refuse error)
      (pending : loaded.status = .pending) (failure : error.IsAnswerFailure)
      (notLast : ∀ limit, error ≠ .tooManyAttempts limit)
      (recorded : after.recorder.events = loaded.recorder.events) :
      Decision operation loaded (.commitAndFail after error)
  | ended {after : Registration} {limit : UInt8} {event : Event}
      (ran : operation.run loaded = after.refuse (.tooManyAttempts limit))
      (pending : loaded.status = .pending) (kind : event.kind = .failed)
      (recorded : after.recorder.events = loaded.recorder.events ++ [event]) :
      Decision operation loaded (.commitAndFail after (.tooManyAttempts limit))

namespace Operation

variable {operation : Operation} {loaded : Registration} {outcome : Outcome}

theorem Change.progress_lt (change : operation.Change loaded outcome) :
    loaded.progress < outcome.after.progress := by
  cases change with
  | lapsed tries pending late =>
      exact Registration.progress_lt_lapsed operation.occasion pending
  | missed command pending inTime different attemptsLeft =>
      exact Registration.progress_lt_missed operation.occasion pending attemptsLeft
  | exhausted | verified | resent | completed =>
      exact Registration.progress_lt_of_recorded rfl
  | completedAtOnce =>
      exact Registration.progress_lt_of_recorded
        (List.append_assoc loaded.recorder.events [_] [_])

theorem Change.changed (change : operation.Change loaded outcome) :
    Mutation.Changed loaded outcome.after :=
  Registration.changed_of_progress change.progress_lt

/-- A change that an operation makes is always kept. -/
theorem Change.kept (change : operation.Change loaded outcome)
    (ran : operation.run loaded = outcome) :
    (Mutation.ofOperation operation).run loaded =
      match outcome.result with
      | .ok () => .commit outcome.after
      | .error error => .commitAndFail outcome.after error := by
  have changed := change.changed
  cases change with
  | lapsed | missed | exhausted =>
      exact Mutation.ofOperation_run_of_failed ran changed rfl
  | verified | resent | completed | completedAtOnce =>
      exact Mutation.ofOperation_run_of_done ran changed

theorem decision (operation : Operation) (loaded : Registration) :
    operation.Decision loaded ((Mutation.ofOperation operation).run loaded) := by
  have course := operation.course loaded
  generalize ran : operation.run loaded = outcome at course
  cases course with
  | refused cause =>
      rw [Mutation.ofOperation_run_of_refused ran]
      exact .rejected cause ran
  | passed idle =>
      rw [Mutation.ofOperation_run_of_idle ran]
      exact .unchanged idle ran
  | changed change =>
      rw [change.kept ran]
      cases change with
      | lapsed tries pending late =>
          exact .counted ran pending trivial (fun _ same => by cases same) rfl
      | missed command pending inTime different attemptsLeft =>
          exact .counted ran pending trivial (fun _ same => by cases same) rfl
      | exhausted command pending inTime different noneLeft =>
          exact .ended ran pending rfl rfl
      | verified | resent | completed => exact .committed ran rfl
      | completedAtOnce command pending inTime same usable =>
          exact .committed ran (List.append_assoc loaded.recorder.events [_] [_])

theorem change_of_committed {registration : Registration}
    (kept : ((Mutation.ofOperation operation).run loaded).committed? = some registration) :
    (operation.run loaded).after = registration ∧
      operation.Change loaded (operation.run loaded) := by
  have course := operation.course loaded
  generalize ran : operation.run loaded = outcome at course
  cases course with
  | refused cause =>
      rw [Mutation.ofOperation_run_of_refused ran] at kept
      cases kept
  | passed idle =>
      rw [Mutation.ofOperation_run_of_idle ran] at kept
      cases kept
  | changed change =>
      rw [change.kept ran] at kept
      obtain ⟨result, after⟩ := outcome
      cases result with
      | ok => exact ⟨Option.some.inj kept, change⟩
      | error error => exact ⟨Option.some.inj kept, change⟩

end Operation

/-! ### Lifecycle steps on the way -/

inductive Operation.Advances (operation : Operation) (loaded : Registration) :
    Registration → Lifecycle.Input → String → Prop
  | expire {candidate : String} (tries : operation.Tries loaded candidate)
      (open' : loaded.status = .pending ∨ loaded.status = .expired)
      (late : loaded.codeExpiresAt < operation.occasion.now) :
      Advances operation loaded loaded .expire "verify_code"
  | verify {candidate : String} (tries : operation.Tries loaded candidate)
      (pending : loaded.status = .pending)
      (same : loaded.code.isMatch candidate = true) :
      Advances operation loaded loaded .verify "verify_code"
  | exhaustAttempts {candidate : String} (tries : operation.Tries loaded candidate)
      (pending : loaded.status = .pending)
      (different : loaded.code.isMatch candidate = false) :
      Advances operation loaded (loaded.missed operation.occasion) .exhaustAttempts
        "verify_code"
  | resend (command : operation.command = .resend)
      (open' : loaded.status.isTerminal = false) :
      Advances operation loaded loaded .resend "resend_code"
  | complete {candidate : String} {account : Account} {passwordHash : PasswordHash}
      {after : Registration}
      (command : operation.command = .complete candidate account passwordHash)
      (same : loaded.code.isMatch candidate = true)
      (notCompleted : loaded.status ≠ .completed)
      (ensured : loaded.ensureVerified operation.policy operation.occasion candidate =
        after.done) :
      Advances operation loaded after .complete (Registration.completionName account)

theorem Registration.status_of_ensured {policy : Policy} {occasion : Occasion}
    {candidate : String} {loaded after : Registration}
    (ensured : loaded.ensureVerified policy occasion candidate = after.done) :
    after.status = .verified := by
  by_cases verified : loaded.status = .verified
  · rw [ensureVerified_of_verified verified] at ensured
    have same : loaded = after := congrArg Outcome.after ensured
    rw [← same]
    exact verified
  · rw [ensureVerified_of_not_verified verified] at ensured
    rw [eq_confirmed_of_verify_ok ensured]
    rfl

theorem Operation.Advances.succeeds {operation : Operation} {loaded registration : Registration}
    {input : Lifecycle.Input} {name : String}
    (advances : operation.Advances loaded registration input name) :
    ∃ moved, registration.advance input name = .ok moved := by
  cases advances with
  | expire tries open' late =>
      rcases open' with pending | expired
      · exact ⟨_, Registration.advance_expire _ pending⟩
      · exact ⟨_, Registration.advance_expire_again _ expired⟩
  | verify tries pending same => exact ⟨_, Registration.advance_verify _ pending⟩
  | exhaustAttempts tries pending different =>
      exact ⟨_, Registration.advance_exhaustAttempts _ pending⟩
  | resend command open' =>
      have notCompleted : loaded.status ≠ .completed := by
        simpa [Status.isTerminal] using open'
      exact ⟨_, Registration.advance_resend _ notCompleted⟩
  | complete command same notCompleted ensured =>
      exact ⟨_, Registration.advance_complete _ (Registration.status_of_ensured ensured)⟩

/-! ### The decision as a whole -/

/-- What holds of an operation, run alone or as a unit of work on a registration as it
was loaded: failures are atomic, and the decision neither loses nor invents a change. -/
structure Operation.DecidedFaithfully (operation : Operation) (loaded : Registration) :
    Prop where
  /-- A failure that is not persistent leaves every field and the recorder alone. -/
  atomic : ∀ error, (operation.run loaded).result = .error error →
    error.isPersistent = false → (operation.run loaded).after = loaded
  commitAndFail_iff : ∀ registration error,
    (Mutation.ofOperation operation).run loaded = .commitAndFail registration error ↔
      operation.run loaded = registration.refuse error ∧ error.IsAnswerFailure ∧
        loaded.status = .pending
  /-- A rejection has no changed registration to throw away. -/
  rejected : ∀ error, (Mutation.ofOperation operation).run loaded = .reject error →
    operation.run loaded = loaded.refuse error
  unchanged_iff : (Mutation.ofOperation operation).run loaded = .unchanged ↔
    (∃ candidate, operation.command = .check candidate ∧
      (operation.run loaded).result = .ok ()) ∨
    ∃ candidate account passwordHash,
      operation.command = .complete candidate account passwordHash ∧
        loaded.code.isMatch candidate = true ∧ loaded.status = .completed
  unchanged : (Mutation.ofOperation operation).run loaded = .unchanged →
    operation.run loaded = loaded.done
  committed : ∀ registration,
    (Mutation.ofOperation operation).run loaded = .commit registration →
      operation.run loaded = registration.done ∧
        ∃ event more, registration.recorder.events = loaded.recorder.events ++ event :: more
  /-- Only the end of all attempts is an event among the failures that are kept. -/
  failed : ∀ registration error,
    (Mutation.ofOperation operation).run loaded = .commitAndFail registration error →
      ((∃ limit, error = .tooManyAttempts limit) → ∃ event, event.kind = .failed ∧
        registration.recorder.events = loaded.recorder.events ++ [event]) ∧
      ((∀ limit, error ≠ .tooManyAttempts limit) →
        registration.recorder.events = loaded.recorder.events)
  /-- No step of the lifecycle fails on the way. -/
  advances : ∀ registration input name, operation.Advances loaded registration input name →
    ∃ moved, registration.advance input name = .ok moved
  /-- A status is refused only by the check at the start of a verification. -/
  invalidStatus : ∀ name status,
    (operation.run loaded).result = .error (.invalidStatus name status) →
      name = "verify_code" ∧ status = loaded.status ∧ loaded.status ≠ .pending ∧
        ∃ candidate, operation.Tries loaded candidate
  /-- That the account exists is a refusal only of the check in a resend. -/
  registrationCompleted :
    (operation.run loaded).result = .error .registrationCompleted →
      operation.command = .resend ∧ loaded.status = .completed

namespace Registration

theorem refuse_inj {left right : RegistrationError} {before after : Registration}
    (same : before.refuse left = after.refuse right) : left = right ∧ before = after := by
  simpa [refuse] using same

theorem refuse_ne_done {error : RegistrationError} {before after : Registration} :
    before.refuse error ≠ after.done := by
  simp [refuse, done]

end Registration

namespace Operation

variable {operation : Operation} {loaded : Registration}

private theorem atomic_of_decision {error : RegistrationError}
    (failed : (operation.run loaded).result = .error error)
    (transient : error.isPersistent = false) : (operation.run loaded).after = loaded := by
  have decision := operation.decision loaded
  generalize (Mutation.ofOperation operation).run loaded = transition at decision
  cases decision with
  | rejected cause ran => rw [ran]; rfl
  | unchanged idle ran => rw [ran]; rfl
  | committed ran recorded => rw [ran] at failed; cases failed
  | counted ran pending failure notLast recorded =>
      rw [ran] at failed
      rw [← Except.error.inj failed,
        RegistrationError.isPersistent_of_isAnswerFailure failure] at transient
      cases transient
  | ended ran pending kind recorded =>
      rw [ran] at failed
      rw [← Except.error.inj failed] at transient
      cases transient

private theorem commitAndFail_iff_of_decision {registration : Registration}
    {error : RegistrationError} :
    (Mutation.ofOperation operation).run loaded = .commitAndFail registration error ↔
      operation.run loaded = registration.refuse error ∧ error.IsAnswerFailure ∧
        loaded.status = .pending := by
  have decision := operation.decision loaded
  generalize (Mutation.ofOperation operation).run loaded = transition at decision
  constructor
  · intro decided
    subst decided
    cases decision with
    | counted ran pending failure notLast recorded => exact ⟨ran, failure, pending⟩
    | ended ran pending kind recorded => exact ⟨ran, trivial, pending⟩
  · rintro ⟨failed, failure, pending⟩
    cases decision with
    | rejected cause ran =>
        obtain ⟨rfl, _⟩ := Registration.refuse_inj (failed.symm.trans ran)
        exact absurd pending (cause.not_pending failure)
    | unchanged idle ran => exact absurd (failed.symm.trans ran) Registration.refuse_ne_done
    | committed ran recorded =>
        exact absurd (failed.symm.trans ran) Registration.refuse_ne_done
    | counted ran pending failure notLast recorded =>
        obtain ⟨rfl, rfl⟩ := Registration.refuse_inj (failed.symm.trans ran)
        rfl
    | ended ran pending kind recorded =>
        obtain ⟨rfl, rfl⟩ := Registration.refuse_inj (failed.symm.trans ran)
        rfl

/-- A conflict of status comes from a refusal without change. -/
private theorem refusal_of_status_conflict {error : RegistrationError}
    (failed : (operation.run loaded).result = .error error)
    (conflict : error.kind = .statusConflict) : operation.Refusal loaded error := by
  have decision := operation.decision loaded
  generalize (Mutation.ofOperation operation).run loaded = transition at decision
  cases decision with
  | rejected cause ran =>
      rw [ran] at failed
      exact Except.error.inj failed ▸ cause
  | unchanged idle ran => rw [ran] at failed; cases failed
  | committed ran recorded => rw [ran] at failed; cases failed
  | counted ran pending failure notLast recorded =>
      rw [ran] at failed
      rw [Except.error.inj failed] at failure
      cases error with
      | codeExpired | codeMismatch | tooManyAttempts => cases conflict
      | _ => exact False.elim failure
  | ended ran pending kind recorded =>
      rw [ran] at failed
      rw [← Except.error.inj failed] at conflict
      cases conflict

private theorem Refusal.invalidStatus {name : String} {status : Status}
    (cause : operation.Refusal loaded (.invalidStatus name status)) :
    name = "verify_code" ∧ status = loaded.status ∧ loaded.status ≠ .pending ∧
      ∃ candidate, operation.Tries loaded candidate := by
  cases cause with
  | notPending tries other inTime => exact ⟨rfl, rfl, other, _, tries⟩

private theorem Refusal.registrationCompleted
    (cause : operation.Refusal loaded .registrationCompleted) :
    operation.command = .resend ∧ loaded.status = .completed := by
  cases cause with
  | alreadyCompleted command waited completed => exact ⟨command, completed⟩

private theorem unchanged_iff_of_decision :
    (Mutation.ofOperation operation).run loaded = .unchanged ↔
      (∃ candidate, operation.command = .check candidate ∧
        (operation.run loaded).result = .ok ()) ∨
      ∃ candidate account passwordHash,
        operation.command = .complete candidate account passwordHash ∧
          loaded.code.isMatch candidate = true ∧ loaded.status = .completed := by
  constructor
  · intro decided
    have decision := operation.decision loaded
    rw [decided] at decision
    cases decision with
    | unchanged idle ran =>
        cases idle with
        | checked command verified inTime same =>
            exact Or.inl ⟨_, command, congrArg Outcome.result ran⟩
        | completedBefore command same completed =>
            exact Or.inr ⟨_, _, _, command, same, completed⟩
  · obtain ⟨command, policy, occasion⟩ := operation
    rintro (⟨candidate, rfl, succeeded⟩ |
      ⟨candidate, account, passwordHash, rfl, same, completed⟩)
    · apply Mutation.ofOperation_run_of_idle
      change loaded.check occasion candidate = loaded.done
      calc loaded.check occasion candidate
          = ⟨(loaded.check occasion candidate).result, (loaded.check occasion candidate).after⟩ :=
            rfl
        _ = ⟨.ok (), loaded⟩ := by
            rw [Registration.check_after]
            exact congrArg (Outcome.mk · loaded) succeeded
    · exact Mutation.ofOperation_run_of_idle (Registration.complete_of_completed same completed)

end Operation

/-- Run on any registration and under any policy, an operation fails atomically, and
what storage is told to keep is what changed. -/
theorem Mutation.ofOperation_decidedFaithfully (operation : Operation)
    (loaded : Registration) : operation.DecidedFaithfully loaded := by
  have decision := operation.decision loaded
  refine
    { atomic := fun error failed transient => Operation.atomic_of_decision failed transient
      commitAndFail_iff := fun registration error => Operation.commitAndFail_iff_of_decision
      rejected := ?_
      unchanged_iff := Operation.unchanged_iff_of_decision
      unchanged := ?_
      committed := ?_
      failed := ?_
      advances := fun registration input name advances => advances.succeeds
      invalidStatus := ?_
      registrationCompleted := ?_ }
  · intro error decided
    rw [decided] at decision
    cases decision with
    | rejected cause ran => exact ran
  · intro decided
    rw [decided] at decision
    cases decision with
    | unchanged idle ran => exact ran
  · intro registration decided
    rw [decided] at decision
    cases decision with
    | committed ran recorded => exact ⟨ran, _, _, recorded⟩
  · intro registration error decided
    rw [decided] at decision
    cases decision with
    | counted ran pending failure notLast recorded =>
        exact ⟨fun ⟨limit, last⟩ => absurd last (notLast limit), fun _ => recorded⟩
    | ended ran pending kind recorded =>
        exact ⟨fun _ => ⟨_, kind, recorded⟩, fun notLast => absurd rfl (notLast _)⟩
  · intro name status failed
    exact (Operation.refusal_of_status_conflict failed rfl).invalidStatus
  · intro failed
    exact (Operation.refusal_of_status_conflict failed rfl).registrationCompleted

end Enrolment
