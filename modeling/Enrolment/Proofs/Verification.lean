/-
Verification is earned. While a registration waits for an answer, its code and deadline
are those of the last event told about it, and its counter is the number of units of
work kept since then. So whoever verifies has answered the code that was last sent.
-/

import Enrolment.Proofs.Life

namespace Enrolment

def Step.mismatches (step : Step) (id : RegistrationId) : Bool :=
  step.commits id &&
    match step.access.operation?, step.before.records.get? id with
    | some { command := .verify candidate, .. }, some stored =>
        !stored.snapshot.code.isMatch candidate
    | _, _ => false

theorem Step.commits_of_mismatches {step : Step} {id : RegistrationId}
    (mismatches : step.mismatches id = true) : step.commits id = true :=
  (Bool.and_eq_true_iff.mp mismatches).1

theorem Policy.maxAttempts_pos {policy : Policy} (usable : policy.validate = .ok ()) :
    0 < policy.maxAttempts.toNat := by
  refine Nat.pos_of_ne_zero fun zero => ?_
  have same : policy.maxAttempts = 0 := UInt8.toNat_inj.mp zero
  simp only [validate, same, if_true] at usable
  repeat' split at usable
  all_goals cases usable

/-! ### Codes that wait for an answer -/

structure Sent (policy : Policy) (id : RegistrationId) (source : Step) (between : List Step)
    (issuing : Event) (code : Code) (deadline : Time.Instant) : Prop where
  tells : source.told id = [issuing]
  code : issuing.body.code? = some code
  deadline : issuing.timestamp.add? policy.codeLifetime = some deadline
  /-- Nothing has been told since. -/
  silent : told id between = []

theorem Sent.concat {policy : Policy} {id : RegistrationId} {source step : Step}
    {between : List Step} {issuing : Event} {code : Code} {deadline : Time.Instant}
    (sent : Sent policy id source between issuing code deadline) (tells : step.told id = []) :
    Sent policy id source (between ++ [step]) issuing code deadline where
  tells := sent.tells
  code := sent.code
  deadline := sent.deadline
  silent := by simp [sent.silent, tells]

inductive Awaiting (policy : Policy) (id : RegistrationId) (steps : List Step)
    (snapshot : Snapshot) : Prop
  | intro {earlier between : List Step} {source : Step} {issuing : Event}
      (steps_eq : steps = earlier ++ source :: between)
      (sent : Sent policy id source between issuing snapshot.code snapshot.codeExpiresAt)
      (counted : between.countP (·.commits id) = snapshot.attempts.toNat)
      (attemptsLeft : snapshot.attempts.toNat < policy.maxAttempts.toNat)

/-- The verification came from the right answer to the code that was last sent, given
before its deadline and before the wrong answers were too many. -/
inductive Earned (policy : Policy) (steps : List Step) (verified : StoredEvent)
    (code : Code) : Prop
  | intro {earlier between later : List Step} {source answer : Step} {issuing : Event}
      {deadline : Time.Instant} {operation : Operation} {more : List StoredEvent}
      (steps_eq : steps = earlier ++ source :: (between ++ answer :: later))
      (sent : Sent policy verified.registrationId source between issuing code deadline)
      (committed : answer.committed = verified :: more)
      (access : answer.access.operation? = some operation)
      (target : answer.commits verified.registrationId = true)
      (right : operation.command.candidate? = some code.text)
      (stamp : verified.event.timestamp = operation.occasion.now)
      (inTime : operation.occasion.now ≤ deadline)
      (attemptsLeft : between.countP (·.mismatches verified.registrationId) <
        policy.maxAttempts.toNat)

namespace Awaiting

variable {policy : Policy} {id : RegistrationId} {steps : List Step} {step : Step}
  {snapshot : Snapshot}

theorem of_sent {now : Time.Instant} {resendTimeout : Time.Instant} {issuing : Event}
    (usable : policy.validate = .ok ()) (tells : step.told id = [issuing])
    (code : issuing.body.code? = some snapshot.code) (stamp : issuing.timestamp = now)
    (timers : Registration.timers policy now = .ok (snapshot.codeExpiresAt, resendTimeout))
    (fresh : snapshot.attempts = 0) : Awaiting policy id (steps ++ [step]) snapshot := by
  have sent : Sent policy id step [] issuing snapshot.code snapshot.codeExpiresAt :=
    { tells, code, silent := rfl
      deadline := by rw [stamp]; exact (Registration.timers_eq_ok timers).1 }
  refine .intro rfl sent (by rw [fresh]; rfl) ?_
  rw [fresh]
  exact Policy.maxAttempts_pos usable

theorem quiet (awaiting : Awaiting policy id steps snapshot) (tells : step.told id = [])
    (notCommitted : step.commits id = false) :
    Awaiting policy id (steps ++ [step]) snapshot := by
  cases awaiting with
  | @intro earlier between source issuing steps_eq sent counted attemptsLeft =>
      refine .intro (by rw [steps_eq, List.append_assoc]; rfl) (sent.concat tells) ?_ attemptsLeft
      simpa [List.countP_append, notCommitted] using counted

/-- A wrong answer that leaves attempts is counted by the step that keeps it. -/
theorem missed (awaiting : Awaiting policy id steps snapshot) (tells : step.told id = [])
    (commits : step.commits id = true) {after : Snapshot} (code : after.code = snapshot.code)
    (deadline : after.codeExpiresAt = snapshot.codeExpiresAt)
    (counter : after.attempts = Registration.nextAttempt snapshot.attempts)
    (left : Registration.nextAttempt snapshot.attempts < policy.maxAttempts) :
    Awaiting policy id (steps ++ [step]) after := by
  cases awaiting with
  | @intro earlier between source issuing steps_eq sent counted attemptsLeft =>
      rw [← code, ← deadline] at sent
      refine .intro (by rw [steps_eq, List.append_assoc]; rfl) (sent.concat tells) ?_ ?_
      · rw [counter, Registration.toNat_nextAttempt_of_lt left, ← counted]
        simp [List.countP_append, commits]
      · rw [counter]
        exact UInt8.lt_iff_toNat_lt.mp left

theorem earned (awaiting : Awaiting policy id steps snapshot) (later : List Step)
    {verified : StoredEvent} {more : List StoredEvent} {operation : Operation}
    (committed : step.committed = verified :: more) (sameId : verified.registrationId = id)
    (access : step.access.operation? = some operation) (commits : step.commits id = true)
    {candidate : String} (answer : operation.command.candidate? = some candidate)
    (same : snapshot.code.isMatch candidate = true)
    (stamp : verified.event.timestamp = operation.occasion.now)
    (inTime : operation.occasion.now ≤ snapshot.codeExpiresAt) :
    Earned policy (steps ++ step :: later) verified snapshot.code := by
  subst sameId
  cases awaiting with
  | @intro earlier between source issuing steps_eq sent counted attemptsLeft =>
      -- Every mismatch was kept, and the counter counts what was kept.
      have fewer : between.countP (·.mismatches verified.registrationId) ≤
          between.countP (·.commits verified.registrationId) :=
        List.countP_mono_left fun other _ => Step.commits_of_mismatches
      refine .intro (by rw [steps_eq, List.append_assoc]; rfl) sent committed access commits
        ?_ stamp inTime ?_
      · rw [answer, eq_of_beq same]
      · omega

end Awaiting

/-! ### Verifications that were earned -/

theorem Earned.append {policy : Policy} {steps : List Step} {verified : StoredEvent} {code : Code}
    (earned : Earned policy steps verified code) (more : List Step) :
    Earned policy (steps ++ more) verified code := by
  cases earned with
  | intro steps_eq sent committed access target right stamp inTime attemptsLeft =>
      exact .intro (by simp [steps_eq]; rfl) sent committed access target right stamp inTime
        attemptsLeft

inductive Vouched (policy : Policy) (id : RegistrationId) (steps : List Step)
    (log : List StoredEvent) (code : Code) : Prop
  | intro {older middle : List StoredEvent} {verified : StoredEvent}
      (log_eq : log = older ++ verified :: middle) (sameId : verified.registrationId = id)
      (kind : verified.event.kind = .emailVerified)
      (silent : ∀ other ∈ middle, other.registrationId ≠ id)
      (earned : Earned policy steps verified code)

theorem Vouched.append {policy : Policy} {id : RegistrationId} {steps : List Step}
    {log : List StoredEvent} {code : Code} (vouched : Vouched policy id steps log code)
    (more : List Step) {events : List StoredEvent}
    (silent : ∀ other ∈ events, other.registrationId ≠ id) :
    Vouched policy id (steps ++ more) (log ++ events) code := by
  cases vouched with
  | @intro older middle verified log_eq sameId kind quiet earned =>
      refine .intro (by rw [log_eq, List.append_assoc]; rfl) sameId kind ?_ (earned.append more)
      intro other member
      rcases List.mem_append.mp member with earlier | later
      · exact quiet other earlier
      · exact silent other later

theorem Step.silent_of_told {step : Step} {id : RegistrationId} (tells : step.told id = []) :
    ∀ other ∈ step.committed, other.registrationId ≠ id := by
  intro other member same
  rw [told, List.map_eq_nil_iff, List.filter_eq_nil_iff] at tells
  exact tells other member (decide_eq_true same)

/-! ### Lives under one policy -/

/-- What the steps of a life say of the state that they lead to. -/
structure Standing (policy : Policy) (id : RegistrationId) (steps : List Step)
    (snapshot : Snapshot) : Prop where
  pending : snapshot.status = .pending → Awaiting policy id steps snapshot
  verified : snapshot.status = .verified →
    Vouched policy id steps (steps.flatMap Step.committed) snapshot.code

namespace Standing

variable {policy : Policy} {id : RegistrationId} {steps : List Step} {step : Step}
  {snapshot : Snapshot}

theorem quiet (standing : Standing policy id steps snapshot) (tells : step.told id = [])
    (notCommitted : step.commits id = false) :
    Standing policy id (steps ++ [step]) snapshot where
  pending := fun pending => (standing.pending pending).quiet tells notCommitted
  verified := fun verified => by
    rw [List.flatMap_append, List.flatMap_singleton]
    exact (standing.verified verified).append [step] (Step.silent_of_told tells)

theorem operated {stored : StoredRegistration} {operation : Operation} {outcome : Outcome}
    {first : Nat} (usable : policy.validate = .ok ())
    (standing : Standing policy id steps stored.snapshot) (samePolicy : operation.policy = policy)
    (access : step.access.operation? = some operation)
    (change : operation.Change (.rehydrate stored.snapshot) outcome)
    (committed : step.committed = Store.number id first outcome.after.recorder.events)
    (commits : step.commits id = true) :
    Standing policy id (steps ++ [step]) outcome.after.toSnapshot := by
  have tells := Step.told_self committed
  subst samePolicy
  cases change with
  | lapsed | exhausted | completed | completedAtOnce => exact { pending := nofun, verified := nofun }
  | missed command pending inTime different attemptsLeft =>
      refine { pending := fun _ => ?_, verified := fun verified => ?_ }
      · exact (standing.pending pending).missed tells commits rfl rfl rfl attemptsLeft
      · have status : Status.pending = .verified := pending.symm.trans verified
        cases status
  | verified command pending inTime same =>
      refine { pending := nofun, verified := fun _ => ?_ }
      rw [List.flatMap_append, List.flatMap_singleton, committed]
      refine .intro rfl rfl rfl (List.forall_mem_nil _) ?_
      exact (standing.pending pending).earned [] committed rfl access commits
        (by rw [command]; rfl) same rfl inTime
  | resent command waited notCompleted timers drawn =>
      refine { pending := fun _ => ?_, verified := nofun }
      exact .of_sent usable tells rfl rfl timers rfl

end Standing

theorem Life.standing {policy : Policy} (usable : policy.validate = .ok ())
    {id : RegistrationId} {steps : List Step} {snapshot : Snapshot}
    (life : Life (· = policy) id steps snapshot) : Standing policy id steps snapshot := by
  induction life with
  | issued unheard allowed issued committed =>
      obtain ⟨_, _, _, _, _, _, _, timers, rfl⟩ := Registration.issue_eq_ok issued
      have samePolicy := allowed
      subst samePolicy
      refine { pending := fun _ => ?_, verified := nofun }
      exact .of_sent usable (Step.told_self committed) rfl rfl timers rfl
  | quiet life tells notCommitted ih => exact ih.quiet tells notCommitted
  | operated life allowed access found change committed commits ih =>
      exact ih.operated usable allowed access change committed commits

/-! ### Whole runs -/

/-- What the log says of an event at a place in it, with the events before. -/
structure WellEarned (policy : Policy) (steps : List Step) (front : List StoredEvent)
    (stored : StoredEvent) : Prop where
  verified : stored.event.kind = .emailVerified → ∃ code, Earned policy steps stored code
  /-- A completion follows upon such a verification, and with the same code. -/
  completed : stored.event.kind.isCompletion = true → ∃ code,
    Vouched policy stored.registrationId steps front code ∧
      ∃ step ∈ steps, stored ∈ step.committed ∧ ∃ operation,
        step.access.operation? = some operation ∧
          operation.command.candidate? = some code.text

private theorem eq_of_singleton {event stored : StoredEvent} {inFront behind : List StoredEvent}
    (place : [event] = inFront ++ stored :: behind) : inFront = [] ∧ stored = event := by
  cases inFront with
  | nil => exact ⟨rfl, (List.cons_eq_cons.mp place).1.symm⟩
  | cons first rest => exact absurd (List.cons_eq_cons.mp place).2.symm (by simp)

private theorem eq_of_pair {first second stored : StoredEvent} {inFront behind : List StoredEvent}
    (place : [first, second] = inFront ++ stored :: behind) :
    inFront = [] ∧ stored = first ∨ inFront = [first] ∧ stored = second := by
  cases inFront with
  | nil => exact Or.inl ⟨rfl, (List.cons_eq_cons.mp place).1.symm⟩
  | cons head rest =>
      obtain ⟨rfl, shorter⟩ := List.cons_eq_cons.mp place
      obtain ⟨rfl, rfl⟩ := eq_of_singleton shorter
      exact Or.inr ⟨rfl, rfl⟩

private theorem wellEarned_of_change {policy : Policy} {id : RegistrationId}
    {earlier later : List Step} {step : Step} {stored : StoredRegistration}
    {operation : Operation} {outcome : Outcome} {first : Nat}
    {inFront behind : List StoredEvent} {told : StoredEvent}
    (standing : Standing policy id earlier stored.snapshot)
    (before : step.before.log = earlier.flatMap Step.committed)
    (access : step.access.operation? = some operation) (commits : step.commits id = true)
    (change : operation.Change (.rehydrate stored.snapshot) outcome)
    (committed : step.committed = Store.number id first outcome.after.recorder.events)
    (place : step.committed = inFront ++ told :: behind) :
    WellEarned policy (earlier ++ step :: later) (step.before.log ++ inFront) told := by
  have entries := committed.symm.trans place
  have rightAnswer {candidate : String} {account : Account} {passwordHash : PasswordHash}
      (command : operation.command = .complete candidate account passwordHash)
      (same : stored.snapshot.code.isMatch candidate = true) :
      ∃ step' ∈ earlier ++ step :: later, told ∈ step'.committed ∧ ∃ operation,
        step'.access.operation? = some operation ∧
          operation.command.candidate? = some stored.snapshot.code.text := by
    refine ⟨step, by simp, by simp [place], operation, access, ?_⟩
    rw [command, eq_of_beq same]
    rfl
  cases change with
  | lapsed | missed =>
      exact absurd entries.symm (List.append_ne_nil_of_right_ne_nil _ (List.cons_ne_nil _ _))
  | exhausted | resent =>
      obtain ⟨rfl, rfl⟩ := eq_of_singleton entries
      exact { verified := nofun, completed := nofun }
  | verified command pending inTime same =>
      obtain ⟨rfl, rfl⟩ := eq_of_singleton entries
      refine { verified := fun _ => ⟨stored.snapshot.code, ?_⟩, completed := nofun }
      exact (standing.pending pending).earned later committed rfl access commits
        (by rw [command]; rfl) same rfl inTime
  | @completed candidate account passwordHash command verified same usable =>
      obtain ⟨rfl, rfl⟩ := eq_of_singleton entries
      refine { verified := fun kind => ?_, completed := fun _ => ⟨_, ?_, rightAnswer command same⟩ }
      · cases account <;> cases kind
      · rw [before]
        exact (standing.verified verified).append (step :: later) (List.forall_mem_nil _)
  | @completedAtOnce candidate account passwordHash command pending inTime same usable =>
      have earned := (standing.pending pending).earned later committed rfl access commits
        (by rw [command]; rfl) same rfl inTime
      rcases eq_of_pair entries with ⟨rfl, rfl⟩ | ⟨rfl, rfl⟩
      · exact { verified := fun _ => ⟨_, earned⟩, completed := nofun }
      · refine
          { verified := fun kind => ?_, completed := fun _ => ⟨_, ?_, rightAnswer command same⟩ }
        · cases account <;> cases kind
        · exact .intro rfl rfl rfl (List.forall_mem_nil _) earned

/-- In a run under one usable policy every verification is earned, and every completion
rests on one that is. -/
theorem Run.wellEarned {policy : Policy} (usable : policy.validate = .ok ()) {steps : List Step}
    {store : Store} (run : Run (Access.IsStandard (· = policy)) steps store)
    {front back : List StoredEvent} {stored : StoredEvent}
    (log : store.log = front ++ stored :: back) : WellEarned policy steps front stored := by
  obtain ⟨earlier, step, later, inFront, behind, rfl, place, rfl⟩ := run.log_split log
  obtain ⟨before, permitted⟩ := run.split
  have deed : step.Deed (· = policy) := Step.deed (.of_run before.isSound) permitted
  cases deed with
  | none records committed notCommitted =>
      exact absurd (committed.symm.trans place).symm
        (List.append_ne_nil_of_right_ne_nil _ (List.cons_ne_nil _ _))
  | issued allowed issued absent sameId records committed notCommitted =>
      obtain ⟨_, _, _, _, _, _, _, _, rfl⟩ := Registration.issue_eq_ok issued
      obtain ⟨rfl, rfl⟩ := eq_of_singleton (committed.symm.trans place)
      exact { verified := nofun, completed := nofun }
  | operated allowed access found change sameId records committed commits =>
      exact wellEarned_of_change ((before.life found).standing usable) before.log_eq access
        ((commits _).trans (decide_eq_true rfl)) change committed place

theorem wellEarned_after_recovery :
    Policy.brief.validate = .ok () ∧
      Run (Access.IsStandard (· = .brief)) (trace .empty recovery)
        (Store.empty.afterAll recovery) ∧
      ∃ front verified completion,
        (Store.empty.afterAll recovery).log = front ++ [verified, completion] ∧
          verified.event.kind = .emailVerified ∧
          completion.event.kind = .studentCompleted ∧
          WellEarned .brief (trace .empty recovery) (front ++ [verified]) completion := by
  refine ⟨rfl, run_recovery, (Store.empty.afterAll recovery).log.take 3, _, _, rfl, rfl, rfl, ?_⟩
  have log : (Store.empty.afterAll recovery).log =
      ((Store.empty.afterAll recovery).log.take 3 ++ [_]) ++ _ :: [] := rfl
  exact run_recovery.wellEarned rfl log

end Enrolment
