/-
Attempts. The counter of a registration is the number of verifications that missed since
its code was last replaced. It stays below the limit as long as the code can be used;
the miss that brings it to the limit ends the code, and only a new code helps then.
-/

import Enrolment.Proofs.Session
import Enrolment.Proofs.Verification
import Mathlib.Data.List.DropRight

namespace Enrolment

def Command.isVerification : Command → Bool
  | .verify _ => true
  | .check _ | .resend | .complete _ _ _ => false

def RegistrationError.isMiss : RegistrationError → Bool
  | .codeMismatch _ | .tooManyAttempts _ => true
  | _ => false

namespace Exchange

def misses (exchange : Exchange) : Bool :=
  exchange.operation.command.isVerification &&
    exchange.transition.error?.any RegistrationError.isMiss

def renews (exchange : Exchange) : Bool :=
  exchange.operation.command = .resend ∧ exchange.transition.error? = none

theorem misses_of_success {exchange : Exchange} (succeeded : exchange.transition.error? = none) :
    exchange.misses = false := by
  simp [misses, succeeded]

theorem misses_of_other_failure {exchange : Exchange} {error : RegistrationError}
    (failed : exchange.transition.error? = some error) (other : error.isMiss = false) :
    exchange.misses = false := by
  simp [misses, failed, other]

theorem renews_iff {exchange : Exchange} : exchange.renews = true ↔
    exchange.operation.command = .resend ∧ exchange.transition.error? = none := by
  simp [renews]

theorem renews_of_ne_resend {exchange : Exchange} {command : Command}
    (given : exchange.operation.command = command) (other : command ≠ .resend) :
    exchange.renews = false := by
  simp [renews, given, other]

theorem renews_of_failure {exchange : Exchange} {error : RegistrationError}
    (failed : exchange.transition.error? = some error) : exchange.renews = false := by
  simp [renews, failed]

end Exchange

/-- The exchanges about the code that is now in force. -/
def sinceRenewal (exchanges : List Exchange) : List Exchange :=
  exchanges.rtakeWhile (!·.renews)

def missesSinceRenewal (exchanges : List Exchange) : Nat :=
  (sinceRenewal exchanges).countP Exchange.misses

def failuresSinceRenewal (exchanges : List Exchange) : Nat :=
  ((sinceRenewal exchanges).flatMap Exchange.events).countP (·.kind = .failed)

theorem sinceRenewal_concat_of_renews {exchanges : List Exchange} {exchange : Exchange}
    (renews : exchange.renews = true) : sinceRenewal (exchanges ++ [exchange]) = [] := by
  unfold sinceRenewal
  apply List.rtakeWhile_concat_neg
  simp [renews]

theorem sinceRenewal_concat {exchanges : List Exchange} {exchange : Exchange}
    (keepsCode : exchange.renews = false) :
    sinceRenewal (exchanges ++ [exchange]) = sinceRenewal exchanges ++ [exchange] := by
  unfold sinceRenewal
  apply List.rtakeWhile_concat_pos
  simp [keepsCode]

theorem Operation.Refusal.not_miss {operation : Operation} {registration : Registration}
    {error : RegistrationError} (cause : operation.Refusal registration error) :
    error.isMiss = false := by
  cases cause <;> rfl

/-- How the miss with a number is reported under a limit: with the attempts that are left,
or as the last one, together with the end of the code. -/
def Exchange.Reports (exchange : Exchange) (limit : UInt8) (number : Nat) : Prop :=
  if number < limit.toNat then
    ∃ left : UInt8, exchange.transition.error? = some (.codeMismatch left) ∧
      left.toNat + number = limit.toNat
  else
    number = limit.toNat ∧ exchange.transition.error? = some (.tooManyAttempts limit) ∧
      exchange.after.status = .expired ∧
      ∃ failure, exchange.events = [failure] ∧ failure.kind = .failed

/-! ### The counter -/

structure Tally (policy : Policy) (exchanges : List Exchange) (snapshot : Snapshot) : Prop where
  counted : snapshot.attempts.toNat = missesSinceRenewal exchanges
  bounded : snapshot.attempts ≤ policy.maxAttempts
  below : snapshot.status ≠ .expired → snapshot.attempts < policy.maxAttempts
  /-- A code ends in a failure once, with its last attempt. -/
  failures : failuresSinceRenewal exchanges =
    if snapshot.attempts = policy.maxAttempts then 1 else 0

namespace Tally

variable {policy : Policy} {exchanges : List Exchange} {snapshot : Snapshot}

theorem fresh (usable : policy.validate = .ok ()) (none : sinceRenewal exchanges = [])
    (noAttempts : snapshot.attempts = 0) : Tally policy exchanges snapshot := by
  have positive := Policy.maxAttempts_pos usable
  have below : snapshot.attempts < policy.maxAttempts := by
    rw [noAttempts]
    exact UInt8.lt_iff_toNat_lt.mpr positive
  refine { counted := ?_, bounded := UInt8.le_of_lt below, below := fun _ => below, failures := ?_ }
  · rw [missesSinceRenewal, none, noAttempts]
    rfl
  · rw [failuresSinceRenewal, none, if_neg (UInt8.ne_of_lt below)]
    rfl

theorem concat {exchange : Exchange} {after : Snapshot}
    (tally : Tally policy exchanges snapshot) (keepsCode : exchange.renews = false)
    (counter : after.attempts.toNat =
      snapshot.attempts.toNat + if exchange.misses = true then 1 else 0)
    (bounded : after.attempts ≤ policy.maxAttempts)
    (below : after.status ≠ .expired → after.attempts < policy.maxAttempts)
    (failures : (if snapshot.attempts = policy.maxAttempts then 1 else 0) +
        exchange.events.countP (·.kind = .failed) =
      if after.attempts = policy.maxAttempts then 1 else 0) :
    Tally policy (exchanges ++ [exchange]) after where
  counted := by
    rw [missesSinceRenewal, sinceRenewal_concat keepsCode, List.countP_append, counter,
      tally.counted, List.countP_singleton]
    rfl
  bounded := bounded
  below := below
  failures := by
    rw [failuresSinceRenewal, sinceRenewal_concat keepsCode, List.flatMap_append,
      List.countP_append, List.flatMap_singleton, ← failures, ← tally.failures]
    rfl

theorem still {exchange : Exchange} {after : Snapshot} (tally : Tally policy exchanges snapshot)
    (keepsCode : exchange.renews = false) (noMiss : exchange.misses = false)
    (attempts : after.attempts = snapshot.attempts)
    (below : after.status ≠ .expired → snapshot.status ≠ .expired)
    (noFailure : exchange.events.countP (·.kind = .failed) = 0) :
    Tally policy (exchanges ++ [exchange]) after := by
  refine tally.concat keepsCode ?_ ?_ ?_ ?_
  · rw [attempts, noMiss]
    rfl
  · rw [attempts]
    exact tally.bounded
  · intro notExpired
    rw [attempts]
    exact tally.below (below notExpired)
  · rw [attempts, noFailure, Nat.add_zero]

theorem succeeded {exchange : Exchange} {after : Snapshot} {command : Command} {status : Status}
    (tally : Tally policy exchanges snapshot)
    (given : exchange.operation.command = command) (other : command ≠ .resend)
    (succeeded : exchange.transition.error? = none)
    (attempts : after.attempts = snapshot.attempts)
    (before : snapshot.status = status) (notExpired : status ≠ .expired)
    (noFailure : exchange.events.countP (·.kind = .failed) = 0) :
    Tally policy (exchanges ++ [exchange]) after := by
  refine tally.still (Exchange.renews_of_ne_resend given other)
    (Exchange.misses_of_success succeeded) attempts ?_ noFailure
  intro _
  rw [before]
  exact notExpired

/-- A miss counts once, and the one that leaves no attempt is the failure of the code. -/
theorem missed {exchange : Exchange} {after : Snapshot} {error : RegistrationError}
    {candidate : String} (tally : Tally policy exchanges snapshot)
    (command : exchange.operation.command = .verify candidate)
    (failed : exchange.transition.error? = some error) (miss : error.isMiss = true)
    (pending : snapshot.status = .pending)
    (attempts : after.attempts = Registration.nextAttempt snapshot.attempts)
    (below : after.status ≠ .expired → after.attempts < policy.maxAttempts)
    (failure : exchange.events.countP (·.kind = .failed) =
      if after.attempts < policy.maxAttempts then 0 else 1) :
    Tally policy (exchanges ++ [exchange]) after := by
  have attemptsLeft := UInt8.lt_iff_toNat_lt.mp
    (tally.below (by rw [pending]; exact Status.noConfusion))
  have limit := policy.maxAttempts.toNat_lt
  have counted : after.attempts.toNat = snapshot.attempts.toNat + 1 := by
    rw [attempts, Registration.toNat_nextAttempt]
    omega
  have misses : exchange.misses = true := by
    simp [Exchange.misses, command, Command.isVerification, failed, miss]
  have notLast : snapshot.attempts ≠ policy.maxAttempts := by
    intro same
    rw [same] at attemptsLeft
    omega
  have bounded : after.attempts ≤ policy.maxAttempts := by
    rw [UInt8.le_iff_toNat_le]
    omega
  refine tally.concat (Exchange.renews_of_failure failed) ?_ bounded below ?_
  · rw [if_pos misses]
    exact counted
  · rw [if_neg notLast, failure, Nat.zero_add]
    by_cases last : after.attempts = policy.maxAttempts
    · rw [if_pos last, if_neg (fun less => UInt8.ne_of_lt less last)]
    · rw [if_neg last, if_pos (UInt8.lt_of_le_of_ne bounded last)]

theorem next {exchange : Exchange} (usable : policy.validate = .ok ())
    (samePolicy : exchange.operation.policy = policy)
    (tally : Tally policy exchanges exchange.before) :
    Tally policy (exchanges ++ [exchange]) exchange.after := by
  subst samePolicy
  cases exchange.ending with
  | refused cause transition failed after events =>
      rw [after]
      refine tally.still (Exchange.renews_of_failure failed) ?_ rfl id (by rw [events]; rfl)
      exact Exchange.misses_of_other_failure failed cause.not_miss
  | passed idle transition succeeded after events =>
      rw [after]
      refine tally.still ?_ (Exchange.misses_of_success succeeded) rfl id (by rw [events]; rfl)
      cases idle with
      | checked command | completedBefore command =>
          exact Exchange.renews_of_ne_resend command Command.noConfusion
  | changed change transition reported after events =>
      rw [after]
      cases change with
      | lapsed tries pending late =>
          refine tally.still (Exchange.renews_of_failure reported)
            (Exchange.misses_of_other_failure reported rfl) rfl ?_ (by rw [events]; rfl)
          intro notExpired
          exact absurd rfl notExpired
      | missed command pending inTime different attemptsLeft =>
          refine tally.missed command reported rfl pending rfl ?_ ?_
          · exact fun _ => attemptsLeft
          · rw [events]
            exact (if_pos attemptsLeft).symm
      | exhausted command pending inTime different noneLeft =>
          refine tally.missed command reported rfl pending rfl ?_ ?_
          · exact fun notExpired => absurd rfl notExpired
          · rw [events]
            exact (if_neg noneLeft).symm
      | verified command pending inTime same =>
          exact tally.succeeded command Command.noConfusion reported rfl pending
            Status.noConfusion (by rw [events]; rfl)
      | resent command waited notCompleted timers drawn =>
          have renews : exchange.renews = true := Exchange.renews_iff.mpr ⟨command, reported⟩
          exact .fresh usable (sinceRenewal_concat_of_renews renews) rfl
      | @completed candidate account passwordHash command verified same usable =>
          refine tally.succeeded command Command.noConfusion reported rfl verified
            Status.noConfusion ?_
          rw [events]
          cases account <;> rfl
      | @completedAtOnce candidate account passwordHash command pending inTime same usable =>
          refine tally.succeeded command Command.noConfusion reported rfl pending
            Status.noConfusion ?_
          rw [events]
          cases account <;> rfl

end Tally

/-! ### Answers -/

namespace Exchange

variable {exchange : Exchange} {candidate : String}

theorem transition_of_wrong (command : exchange.operation.command = .verify candidate)
    (pending : exchange.before.status = .pending)
    (inTime : exchange.operation.occasion.now ≤ exchange.before.codeExpiresAt)
    (different : exchange.before.code.isMatch candidate = false) :
    if Registration.nextAttempt exchange.before.attempts < exchange.operation.policy.maxAttempts then
      exchange.transition = .commitAndFail
        ((Registration.rehydrate exchange.before).missed exchange.operation.occasion)
        (.codeMismatch (exchange.operation.policy.maxAttempts -
          Registration.nextAttempt exchange.before.attempts))
    else
      exchange.transition = .commitAndFail
        ((Registration.rehydrate exchange.before).exhausted exchange.operation.occasion
          exchange.operation.occasion.eventId)
        (.tooManyAttempts exchange.operation.policy.maxAttempts) := by
  obtain ⟨before, operation, policy, occasion⟩ := exchange
  obtain rfl : operation = .verify candidate := command
  split
  · next attemptsLeft =>
      have change : Operation.Change ⟨.verify candidate, policy, occasion⟩ (.rehydrate before) _ :=
        .missed rfl pending inTime different attemptsLeft
      exact change.kept (Registration.verify_of_miss pending inTime different attemptsLeft)
  · next noneLeft =>
      have change : Operation.Change ⟨.verify candidate, policy, occasion⟩ (.rehydrate before) _ :=
        .exhausted rfl pending inTime different noneLeft
      exact change.kept (Registration.verify_of_last_miss pending inTime different noneLeft)

theorem misses_iff (exchange : Exchange) :
    exchange.misses = true ↔ ∃ candidate, exchange.operation.command = .verify candidate ∧
      exchange.before.status = .pending ∧
      exchange.operation.occasion.now ≤ exchange.before.codeExpiresAt ∧
      exchange.before.code.isMatch candidate = false := by
  constructor
  · intro misses
    cases exchange.ending with
    | refused cause transition failed =>
        rw [misses_of_other_failure failed cause.not_miss] at misses
        cases misses
    | passed idle transition succeeded =>
        rw [misses_of_success succeeded] at misses
        cases misses
    | changed change transition reported =>
        cases change with
        | missed command pending inTime different | exhausted command pending inTime different =>
            exact ⟨_, command, pending, inTime, different⟩
        | lapsed =>
            rw [misses_of_other_failure reported rfl] at misses
            cases misses
        | verified | resent | completed | completedAtOnce =>
            rw [misses_of_success reported] at misses
            cases misses
  · rintro ⟨candidate, command, pending, inTime, different⟩
    have transition := transition_of_wrong command pending inTime different
    split at transition
    all_goals
      rw [misses, command, transition]
      rfl

/-- A registration that has expired stays as it is until its code is replaced. -/
theorem after_of_expired (expired : exchange.before.status = .expired)
    (keepsCode : exchange.renews = false) : exchange.after = exchange.before := by
  have notPending : exchange.before.status ≠ .pending := by
    rw [expired]
    exact Status.noConfusion
  cases exchange.ending with
  | refused cause transition failed after => exact after
  | passed idle transition succeeded after => exact after
  | changed change transition reported =>
      cases change with
      | lapsed tries pending | missed command pending | exhausted command pending
      | verified command pending | completedAtOnce command pending =>
          exact absurd pending notPending
      | resent command =>
          rw [renews_iff.mpr ⟨command, reported⟩] at keepsCode
          cases keepsCode
      | completed command verified =>
          have status : Status.expired = .verified := expired.symm.trans verified
          cases status

theorem attempts_of_no_miss (noMiss : exchange.misses = false) (keepsCode : exchange.renews = false) :
    exchange.after.attempts = exchange.before.attempts := by
  cases exchange.ending with
  | refused cause transition failed after => rw [after]
  | passed idle transition succeeded after => rw [after]
  | changed change transition reported after =>
      rw [after]
      cases change with
      | lapsed | verified | completed | completedAtOnce => rfl
      | missed command pending inTime different | exhausted command pending inTime different =>
          have misses := exchange.misses_iff.mpr ⟨_, command, pending, inTime, different⟩
          rw [misses] at noMiss
          cases noMiss
      | resent command =>
          rw [renews_iff.mpr ⟨command, reported⟩] at keepsCode
          cases keepsCode

end Exchange

/-- What a session says of the attempts at the code in force, and of the exchange that
comes next. -/
structure AttemptsExact (policy : Policy) (exchanges : List Exchange) (snapshot : Snapshot) :
    Prop extends Tally policy exchanges snapshot where
  /-- A miss is a wrong answer to a code that waits for one and is still in time. -/
  misses_iff : ∀ exchange : Exchange, exchange.before = snapshot →
    (exchange.misses = true ↔ ∃ candidate, exchange.operation.command = .verify candidate ∧
      snapshot.status = .pending ∧ exchange.operation.occasion.now ≤ snapshot.codeExpiresAt ∧
      snapshot.code.isMatch candidate = false)
  reports : ∀ exchange : Exchange, exchange.before = snapshot → exchange.operation.policy = policy →
    exchange.misses = true →
      exchange.Reports policy.maxAttempts (missesSinceRenewal exchanges + 1)
  /-- Verifications apart, only a new code touches the counter. -/
  untouched : ∀ exchange : Exchange, exchange.before = snapshot → exchange.misses = false →
    exchange.renews = false → exchange.after.attempts = snapshot.attempts
  /-- When all attempts are used up, only a new code changes anything. -/
  ended : missesSinceRenewal exchanges = policy.maxAttempts.toNat → snapshot.status = .expired ∧
    ∀ exchange : Exchange, exchange.before = snapshot → exchange.renews = false →
      exchange.after = snapshot

namespace Tally

variable {policy : Policy} {exchanges : List Exchange} {snapshot : Snapshot}

theorem reports {exchange : Exchange} (tally : Tally policy exchanges exchange.before)
    (samePolicy : exchange.operation.policy = policy) (misses : exchange.misses = true) :
    exchange.Reports policy.maxAttempts (missesSinceRenewal exchanges + 1) := by
  subst samePolicy
  obtain ⟨candidate, command, pending, inTime, different⟩ := exchange.misses_iff.mp misses
  have below := UInt8.lt_iff_toNat_lt.mp
    (tally.below (by rw [pending]; exact Status.noConfusion))
  have limit := exchange.operation.policy.maxAttempts.toNat_lt
  have number : (Registration.nextAttempt exchange.before.attempts).toNat =
      missesSinceRenewal exchanges + 1 := by
    rw [Registration.toNat_nextAttempt, ← tally.counted]
    omega
  have transition := Exchange.transition_of_wrong command pending inTime different
  unfold Exchange.Reports
  rw [← number]
  split at transition
  · next attemptsLeft =>
      have less := UInt8.lt_iff_toNat_lt.mp attemptsLeft
      rw [if_pos less]
      refine ⟨_, by rw [transition]; rfl, ?_⟩
      rw [UInt8.toNat_sub_of_le _ _ (UInt8.le_of_lt attemptsLeft)]
      omega
  · next noneLeft =>
      have least : ¬ (Registration.nextAttempt exchange.before.attempts).toNat <
          exchange.operation.policy.maxAttempts.toNat :=
        fun less => noneLeft (UInt8.lt_iff_toNat_lt.mpr less)
      rw [if_neg least]
      have committed : exchange.transition.committed? = some
          ((Registration.rehydrate exchange.before).exhausted exchange.operation.occasion
            exchange.operation.occasion.eventId) := by rw [transition]; rfl
      obtain ⟨after, events⟩ := Exchange.kept_of_committed committed
      refine ⟨?_, by rw [transition]; rfl, by rw [after]; rfl, ?_⟩
      · rw [number] at least ⊢
        rw [tally.counted] at below
        omega
      · exact ⟨_, events, rfl⟩

theorem attemptsExact (tally : Tally policy exchanges snapshot) :
    AttemptsExact policy exchanges snapshot where
  toTally := tally
  misses_iff := by
    rintro exchange rfl
    exact exchange.misses_iff
  reports := by
    rintro exchange rfl samePolicy misses
    exact tally.reports samePolicy misses
  untouched := by
    rintro exchange rfl noMiss keepsCode
    exact Exchange.attempts_of_no_miss noMiss keepsCode
  ended := by
    intro all
    have expired : snapshot.status = .expired := by
      by_contra notExpired
      have below := UInt8.lt_iff_toNat_lt.mp (tally.below notExpired)
      rw [tally.counted] at below
      omega
    refine ⟨expired, ?_⟩
    rintro exchange rfl keepsCode
    exact Exchange.after_of_expired expired keepsCode

end Tally

/-! ### Sessions and runs -/

theorem Session.tally {policy : Policy} (usable : policy.validate = .ok ())
    {start snapshot : Snapshot} {exchanges : List Exchange}
    (session : Session (fun operation => operation.policy = policy) start exchanges snapshot)
    (noAttempts : start.attempts = 0) : Tally policy exchanges snapshot := by
  induction session with
  | start => exact .fresh usable rfl noAttempts
  | @next exchanges snapshot earlier operation permitted ih =>
      exact Tally.next usable permitted ih

/-- In a run under one usable policy the counter of every registration is exact and the
limit ends each code; and what the exchanges record is all that is committed after the
registration was issued. -/
theorem Run.attempts_exact {policy : Policy} (usable : policy.validate = .ok ())
    {steps : List Step} {store : Store} (run : Run (Access.IsStandard (· = policy)) steps store)
    {id : RegistrationId} {record : StoredRegistration}
    (found : store.records.get? id = some record) :
    AttemptsExact policy (exchangesWith id steps) record.snapshot ∧
      ∃ issuing : Event, issuing.kind = .started ∧
        (store.eventsOf id).map StoredEvent.event =
          issuing :: (exchangesWith id steps).flatMap Exchange.events := by
  cases run.held found with
  | intro allowed issued session told_eq =>
      obtain ⟨_, _, _, _, _, _, _, _, rfl⟩ := Registration.issue_eq_ok issued
      refine ⟨(session.tally usable rfl).attemptsExact, ?_⟩
      rw [run.eventsOf_eq, told_eq]
      exact ⟨_, rfl, rfl⟩

theorem attempts_exact_after_recovery :
    Policy.brief.validate = .ok () ∧
      Run (Access.IsStandard (· = .brief)) (trace .empty recovery)
        (Store.empty.afterAll recovery) ∧
      ∃ record, (Store.empty.afterAll recovery).records.get? ⟨.nil⟩ = some record ∧
        record.snapshot.attempts = 1 ∧
        AttemptsExact .brief (exchangesWith ⟨.nil⟩ (trace .empty recovery)) record.snapshot := by
  refine ⟨rfl, run_recovery, _, rfl, rfl, ?_⟩
  exact (run_recovery.attempts_exact rfl rfl).1

end Enrolment
