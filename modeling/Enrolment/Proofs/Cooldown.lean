/-
How often codes are sent. A resend has to wait for the end of the cool-down that the code
before it started, and only another code moves that end. So two codes are further apart than
the cool-down, whatever else happens and even if the clock goes back in between.
-/

import Enrolment.Proofs.Chronology
import Enrolment.Proofs.Credential
import Enrolment.Proofs.Usage
import Mathlib.Data.List.Chain

namespace Enrolment

open Time

/-! ### Codes of one performance -/

namespace Performance

def renews (performance : Performance) : Bool :=
  performance.operation.command = .resend ∧ performance.outcome.error? = none

/-- What a performance does about the code: it sends another and sets both timers, or it
leaves code and timers alone. -/
inductive Posting (performance : Performance) : Prop
  | nothing (keepsCode : performance.renews = false)
      (credential : performance.after.credential = performance.before.credential)
      (silent : ∀ event ∈ performance.events, event.sendsCode = false)
  | code {event : Event} {unused : List Code.Block} (renews : performance.renews = true)
      (waited : performance.before.resendTimeout < performance.now)
      (timers : Registration.timers performance.operation.policy performance.now =
        .ok (performance.after.codeExpiresAt, performance.after.resendTimeout))
      (drawn : Code.generateDistinct performance.operation.policy.codeLength
        performance.before.code performance.operation.occasion.entropy =
          .ok (performance.after.code, unused))
      (recorded : performance.events = [event]) (sends : event.sendsCode = true)
      (stamp : event.timestamp = performance.now)

variable {performance : Performance}

theorem renews_of_failed {error : RegistrationError}
    (failed : performance.outcome.error? = some error) : performance.renews = false := by
  simp [renews, failed]

theorem renews_of_other {command : Command} (given : performance.operation.command = command)
    (other : command ≠ .resend) : performance.renews = false := by
  simp [renews, given, other]

theorem posting (performance : Performance) : performance.Posting := by
  cases performance.ending with
  | refused cause ran after events =>
      refine .nothing (renews_of_failed (by rw [ran]; rfl)) (by rw [after]) ?_
      rw [events]
      exact List.forall_mem_nil _
  | passed idle ran after events =>
      refine .nothing ?_ (by rw [after]) ?_
      · cases idle with
        | checked command | completedBefore command =>
            exact renews_of_other command Command.noConfusion
      · rw [events]
        exact List.forall_mem_nil _
  | changed change ran after =>
      cases change with
      | lapsed | missed =>
          have events : performance.events = [] :=
            events_of_recorded after (List.append_nil _).symm
          refine .nothing (renews_of_failed (by rw [ran]; rfl)) (by rw [after]; rfl) ?_
          rw [events]
          exact List.forall_mem_nil _
      | exhausted =>
          have events : performance.events = [_] := events_of_recorded after rfl
          refine .nothing (renews_of_failed (by rw [ran]; rfl)) (by rw [after]; rfl) ?_
          rw [events, List.forall_mem_singleton]
          rfl
      | verified command =>
          have events : performance.events = [_] := events_of_recorded after rfl
          refine .nothing (renews_of_other command Command.noConfusion) (by rw [after]; rfl) ?_
          rw [events, List.forall_mem_singleton]
          rfl
      | resent command waited notCompleted timers drawn =>
          have events : performance.events = [_] := events_of_recorded after rfl
          have renews : performance.renews = true := by
            simp [renews, command, ran, Outcome.error?, Registration.done]
          exact .code renews waited (by rw [after]; exact timers) (by rw [after]; exact drawn)
            events rfl rfl
      | @completed candidate account passwordHash command =>
          have events : performance.events = [_] := events_of_recorded after rfl
          refine .nothing (renews_of_other command Command.noConfusion) (by rw [after]; rfl) ?_
          rw [events, List.forall_mem_singleton]
          exact EventBody.sendsCode_kind_completed account passwordHash
      | @completedAtOnce candidate account passwordHash command =>
          have events : performance.events = [_, _] :=
            events_of_recorded after (List.append_assoc _ [_] [_])
          refine .nothing (renews_of_other command Command.noConfusion) (by rw [after]; rfl) ?_
          rw [events, List.forall_mem_cons, List.forall_mem_singleton]
          exact ⟨rfl, EventBody.sendsCode_kind_completed account passwordHash⟩

end Performance

/-! ### Times of codes -/

def renewalTimes (performances : List Performance) : List Instant :=
  (performances.filter Performance.renews).map Performance.now

def codeTime (began : Instant) (performances : List Performance) : Instant :=
  (renewalTimes performances).getLastD began

section Times

variable {performances : List Performance} {performance : Performance}

theorem renewalTimes_concat_of_renews (renews : performance.renews = true) :
    renewalTimes (performances ++ [performance]) =
      renewalTimes performances ++ [performance.now] := by
  simp [renewalTimes, List.filter_append, renews]

theorem renewalTimes_concat_of_keeps (keepsCode : performance.renews = false) :
    renewalTimes (performances ++ [performance]) = renewalTimes performances := by
  simp [renewalTimes, List.filter_append, keepsCode]

theorem codeTime_concat_of_renews (began : Instant) (renews : performance.renews = true) :
    codeTime began (performances ++ [performance]) = performance.now := by
  rw [codeTime, renewalTimes_concat_of_renews renews, List.getLastD_concat]

theorem codeTime_concat_of_keeps (began : Instant) (keepsCode : performance.renews = false) :
    codeTime began (performances ++ [performance]) = codeTime began performances := by
  rw [codeTime, renewalTimes_concat_of_keeps keepsCode, codeTime]

end Times

structure Timed (policy : Policy) (began : Instant) (performances : List Performance)
    (registration : Registration) : Prop where
  codeExpiresAt : (codeTime began performances).add? policy.codeLifetime =
    some registration.codeExpiresAt
  resendTimeout : (codeTime began performances).add? policy.resendCooldown =
    some registration.resendTimeout

def Policy.Apart (policy : Policy) (earlier later : Instant) : Prop :=
  ∃ timeout, earlier.add? policy.resendCooldown = some timeout ∧ timeout < later

namespace Usage

variable {policy : Policy} {occasion : Occasion} {id : RegistrationId} {email : String}
  {issued registration : Registration} {performances : List Performance}

theorem timed (succeeded : Registration.issue policy occasion id email = .ok issued)
    (usage : Usage (·.policy = policy) issued performances registration) :
    Timed policy occasion.now performances registration := by
  induction usage with
  | start =>
      obtain ⟨_, _, _, _, _, _, _, timers, rfl⟩ := Registration.issue_eq_ok succeeded
      obtain ⟨expiry, cooldown⟩ := Registration.timers_eq_ok timers
      exact { codeExpiresAt := expiry, resendTimeout := cooldown }
  | commitEvents earlier ih =>
      exact { codeExpiresAt := ih.codeExpiresAt, resendTimeout := ih.resendTimeout }
  | @perform performances registration earlier operation permitted ih =>
      cases (⟨registration, operation⟩ : Performance).posting with
      | nothing keepsCode credential silent =>
          have expiry := congrArg Credential.codeExpiresAt credential
          have timeout := congrArg Credential.resendTimeout credential
          constructor
          · rw [codeTime_concat_of_keeps _ keepsCode, ih.codeExpiresAt]
            exact congrArg some expiry.symm
          · rw [codeTime_concat_of_keeps _ keepsCode, ih.resendTimeout]
            exact congrArg some timeout.symm
      | code renews waited timers drawn recorded sends stamp =>
          obtain ⟨expiry, cooldown⟩ := Registration.timers_eq_ok timers
          rw [permitted] at expiry cooldown
          constructor
          · rw [codeTime_concat_of_renews _ renews]
            exact expiry
          · rw [codeTime_concat_of_renews _ renews]
            exact cooldown

theorem apart (succeeded : Registration.issue policy occasion id email = .ok issued)
    (usage : Usage (·.policy = policy) issued performances registration) :
    (occasion.now :: renewalTimes performances).IsChain policy.Apart := by
  induction usage with
  | start => exact List.isChain_singleton _
  | commitEvents earlier ih => exact ih
  | @perform performances registration earlier operation permitted ih =>
      cases (⟨registration, operation⟩ : Performance).posting with
      | nothing keepsCode credential silent =>
          rw [renewalTimes_concat_of_keeps keepsCode]
          exact ih
      | code renews waited timers drawn recorded sends stamp =>
          -- The resend waited for the end of the cool-down of the code before.
          have beyond : policy.Apart (codeTime occasion.now performances) operation.occasion.now :=
            ⟨registration.resendTimeout, (timed succeeded earlier).resendTimeout, waited⟩
          rw [renewalTimes_concat_of_renews renews, ← List.cons_append, List.isChain_append]
          refine ⟨ih, List.isChain_singleton _, ?_⟩
          intro last isLast next isNext
          rw [List.getLast?_cons, ← List.getLastD_eq_getLast?] at isLast
          obtain rfl := Option.some.inj isLast
          obtain rfl := Option.some.inj isNext
          exact beyond

/-- The events that send codes bear the times of the codes. -/
theorem stamps (succeeded : Registration.issue policy occasion id email = .ok issued)
    {allowed : Operation → Prop} (usage : Usage allowed issued performances registration) :
    ((issued.recorder.events ++ recordedIn performances).filter Event.sendsCode).map
      Event.timestamp = occasion.now :: renewalTimes performances := by
  induction usage with
  | start =>
      obtain ⟨_, _, _, _, _, _, _, _, rfl⟩ := Registration.issue_eq_ok succeeded
      rfl
  | commitEvents earlier ih => exact ih
  | @perform performances registration earlier operation permitted ih =>
      rw [recordedIn_concat, ← List.append_assoc, List.filter_append, List.map_append, ih]
      cases (⟨registration, operation⟩ : Performance).posting with
      | nothing keepsCode credential silent =>
          rw [renewalTimes_concat_of_keeps keepsCode, List.filter_eq_nil_iff.mpr, List.map_nil,
            List.append_nil]
          intro event member
          rw [silent event member]
          exact Bool.false_ne_true
      | code renews waited timers drawn recorded sends stamp =>
          rw [renewalTimes_concat_of_renews renews, recorded, List.filter_singleton, sends,
            cond_true, List.map_singleton, stamp]
          rfl

end Usage

theorem Registration.resend_of_early {policy : Policy} {occasion : Occasion}
    {registration : Registration} (early : occasion.now ≤ registration.resendTimeout) :
    registration.resend policy occasion = registration.refuse
      (.resendThrottled (registration.resendTimeout.since occasion.now)) := by
  rw [resend, if_pos early]

/-! ### The spacing of codes -/

/-- How far apart the codes of a registration were sent, how the log shows it, and until when
the next one has to wait. -/
structure Spaced (policy : Policy) (began : Instant) (performances : List Performance)
    (log : List Event) (registration : Registration) : Prop where
  apart : (began :: renewalTimes performances).IsChain policy.Apart
  stamps : (log.filter Event.sendsCode).map Event.timestamp = began :: renewalTimes performances
  increasing : ((log.filter Event.sendsCode).map Event.timestamp).Pairwise (· < ·)
  /-- During the cool-down no status lets a resend pass, and nothing changes. -/
  throttled : ∃ timeout,
    (codeTime began performances).add? policy.resendCooldown = some timeout ∧
      ∀ operation : Operation, operation.command = .resend →
        operation.occasion.now ≤ timeout →
          operation.run registration = registration.refuse
            (.resendThrottled (timeout.since operation.occasion.now))

theorem Policy.Apart.lt {policy : Policy} {earlier later : Instant}
    (positive : Duration.zero < policy.resendCooldown) (apart : policy.Apart earlier later) :
    earlier < later := by
  obtain ⟨timeout, ends, beyond⟩ := apart
  exact lt_trans (Instant.lt_of_add? positive ends) beyond

theorem Usage.spaced {policy : Policy} {occasion : Occasion} {id : RegistrationId}
    {email : String} {issued registration : Registration} {performances : List Performance}
    (positive : Duration.zero < policy.resendCooldown)
    (succeeded : Registration.issue policy occasion id email = .ok issued)
    (usage : Usage (·.policy = policy) issued performances registration) :
    Spaced policy occasion.now performances (issued.recorder.events ++ recordedIn performances)
      registration := by
  have apart := usage.apart succeeded
  have stamps := usage.stamps succeeded
  refine { apart, stamps, increasing := ?_, throttled := ?_ }
  · rw [stamps]
    apply List.IsChain.pairwise
    exact apart.imp fun _ _ between => between.lt positive
  · refine ⟨registration.resendTimeout, (usage.timed succeeded).resendTimeout, ?_⟩
    intro operation command early
    obtain ⟨_, policy, occasion⟩ := operation
    subst command
    exact Registration.resend_of_early early

/-- Under a policy with a positive cool-down, usable or not, the codes of a registration are
further apart than the cool-down, in the hands of a caller as in storage. -/
theorem Policy.spaces_codes {policy : Policy}
    (positive : Duration.zero < policy.resendCooldown) :
    (∀ (occasion : Occasion) (id : RegistrationId) (email : String)
      (issued registration : Registration) (performances : List Performance),
      Registration.issue policy occasion id email = .ok issued →
      Usage (·.policy = policy) issued performances registration →
        Spaced policy occasion.now performances
          (issued.recorder.events ++ recordedIn performances) registration) ∧
    ∀ (steps : List Step) (store : Store) (id : RegistrationId) (record : StoredRegistration),
      Run (Access.IsStandard (· = policy)) steps store →
      store.records.get? id = some record →
        ∃ occasion email issued, Registration.issue policy occasion id email = .ok issued ∧
          Spaced policy occasion.now ((exchangesWith id steps).map Exchange.performance)
            ((store.eventsOf id).map StoredEvent.event) (.rehydrate record.snapshot) := by
  constructor
  · intro occasion id email issued registration performances succeeded usage
    exact usage.spaced positive succeeded
  · intro steps store id record run found
    obtain ⟨given, occasion, email, issued, rfl, succeeded, usage, log⟩ := run.usage found
    refine ⟨occasion, email, issued, succeeded, ?_⟩
    rw [log]
    exact usage.spaced positive succeeded

/-! ### A sample -/

theorem spaces_codes_of_replaced :
    Duration.zero < Policy.brief.resendCooldown ∧
      (Registration.replaced.status = .completed ∧
        renewalTimes Performance.replacement = [⟨75, 0, by decide⟩] ∧
        Spaced .brief .epoch Performance.replacement
          (Registration.unanswered.recorder.events ++ recordedIn Performance.replacement)
          .replaced) ∧
      ∃ record occasion email issued,
        (Store.empty.afterAll recovery).records.get? ⟨.nil⟩ = some record ∧
        Registration.issue .brief occasion ⟨.nil⟩ email = .ok issued ∧
        Spaced .brief occasion.now
          ((exchangesWith ⟨.nil⟩ (trace .empty recovery)).map Exchange.performance)
          (((Store.empty.afterAll recovery).eventsOf ⟨.nil⟩).map StoredEvent.event)
          (.rehydrate record.snapshot) := by
  have positive : Duration.zero < Policy.brief.resendCooldown := by decide
  obtain ⟨inHand, inStorage⟩ := Policy.spaces_codes positive
  have succeeded : Registration.issue .brief (.uniform .epoch 0) ⟨.nil⟩ "a@b" =
      .ok .unanswered := rfl
  obtain ⟨occasion, email, issued, given, spaced⟩ := inStorage _ _ ⟨.nil⟩ _ run_recovery rfl
  refine ⟨positive, ⟨by decide, by decide, ?_⟩, _, occasion, email, issued, rfl, given, spaced⟩
  exact inHand _ _ _ _ _ _ succeeded Registration.usage_replaced

end Enrolment
