/-
The credential in storage is the one that was last sent out. A registration keeps the
code of the latest event that carried one, and the timers that this event started; an
operation changes all three together with such an event, or none of them.
-/

import Enrolment.Proofs.Life

namespace Enrolment

open Time

structure Credential where
  code : Code
  codeExpiresAt : Instant
  resendTimeout : Instant

def Snapshot.credential (snapshot : Snapshot) : Credential :=
  { code := snapshot.code
    codeExpiresAt := snapshot.codeExpiresAt
    resendTimeout := snapshot.resendTimeout }

/-! ### Events that send a code -/

def EventKind.sendsCode : EventKind → Bool
  | .started | .codeResent => true
  | .emailVerified | .failed | .studentCompleted | .staffCompleted => false

def Event.sendsCode (event : Event) : Bool :=
  event.kind.sendsCode

def lastSent? (events : List Event) : Option Event :=
  (events.filter Event.sendsCode).getLast?

structure Event.Sends (policy : Policy) (event : Event) (credential : Credential) : Prop where
  code : event.body.code? = some credential.code
  codeExpiresAt : event.timestamp.add? policy.codeLifetime = some credential.codeExpiresAt
  resendTimeout : event.timestamp.add? policy.resendCooldown = some credential.resendTimeout

structure Event.Begins (event : Event) (identity : Identity) : Prop where
  registrationId : event.registrationId = identity.id
  email : event.email = identity.email
  timestamp : event.timestamp = identity.createdAt

theorem lastSent?_append_silent {events more : List Event}
    (silent : ∀ event ∈ more, event.sendsCode = false) :
    lastSent? (events ++ more) = lastSent? events := by
  have nothing : more.filter Event.sendsCode = [] := by
    apply List.filter_eq_nil_iff.mpr
    intro event member
    simp [silent event member]
  unfold lastSent?
  rw [List.filter_append, nothing, List.append_nil]

theorem lastSent?_concat {event : Event} (events : List Event) (sends : event.sendsCode = true) :
    lastSent? (events ++ [event]) = some event := by
  unfold lastSent?
  simp [List.filter_append, sends]

/-! ### One operation -/

/-- An operation sends a new code with the credential that belongs to it, or it leaves the
credential as it is and sends none. -/
inductive Outcome.Posts (policy : Policy) (before : Registration) (outcome : Outcome) : Prop
  | nothing {more : List Event}
      (credential : outcome.after.credential = before.credential)
      (recorded : outcome.after.recorder.events = before.recorder.events ++ more)
      (silent : ∀ event ∈ more, event.sendsCode = false)
  | code {event : Event} (kind : event.kind = .codeResent)
      (sends : event.Sends policy outcome.after.credential)
      (recorded : outcome.after.recorder.events = before.recorder.events ++ [event])

theorem EventBody.sendsCode_kind_completed (account : Account) (passwordHash : PasswordHash) :
    (EventBody.completed account passwordHash).kind.sendsCode = false := by
  cases account with
  | student profile => rfl
  | staff profile => rfl

theorem Operation.Change.posts {operation : Operation} {before : Registration}
    {outcome : Outcome} (change : operation.Change before outcome) :
    outcome.Posts operation.policy before := by
  cases change with
  | lapsed | missed => exact .nothing rfl (List.append_nil _).symm (List.forall_mem_nil _)
  | exhausted | verified =>
      refine .nothing rfl rfl ?_
      intro event member
      rw [List.mem_singleton.mp member]
      rfl
  | resent command waited notCompleted timers drawn =>
      obtain ⟨expiry, cooldown⟩ := Registration.timers_eq_ok timers
      exact .code rfl { code := rfl, codeExpiresAt := expiry, resendTimeout := cooldown } rfl
  | @completed candidate account passwordHash command verified same usable =>
      refine .nothing rfl rfl ?_
      intro event member
      rw [List.mem_singleton.mp member]
      exact EventBody.sendsCode_kind_completed account passwordHash
  | @completedAtOnce candidate account passwordHash command pending inTime same usable =>
      refine .nothing rfl (List.append_assoc before.recorder.events [_] [_]) ?_
      intro event member
      rcases List.mem_cons.mp member with rfl | last
      · rfl
      · rw [List.mem_singleton.mp last]
        exact EventBody.sendsCode_kind_completed account passwordHash

/-! ### One life -/

/-- The stored state is that of the code that was last sent, under the identity with
which the registration began. -/
structure Live (policy : Policy) (events : List Event) (snapshot : Snapshot) : Prop where
  sent : ∃ event, lastSent? events = some event ∧ event.Sends policy snapshot.credential
  begun : ∃ event, events.filter (·.kind = .started) = [event] ∧ event.Begins snapshot.identity

namespace Live

variable {policy : Policy} {events : List Event} {before : Snapshot} {outcome : Outcome}

theorem operated (live : Live policy events before)
    (identity : outcome.after.identity = before.identity)
    (posts : outcome.Posts policy (.rehydrate before)) :
    Live policy (events ++ outcome.after.recorder.events) outcome.after.toSnapshot := by
  obtain ⟨sent, begun⟩ := live
  cases posts with
  | @nothing more credential recorded silent =>
      have appended : outcome.after.recorder.events = more := recorded
      have noStart : more.filter (·.kind = .started) = [] := by
        apply List.filter_eq_nil_iff.mpr
        intro event member start
        have sends := silent event member
        rw [Event.sendsCode, of_decide_eq_true start] at sends
        cases sends
      rw [appended]
      constructor
      · rw [lastSent?_append_silent silent, credential]
        exact sent
      · rw [List.filter_append, noStart, List.append_nil, identity]
        exact begun
  | @code event kind sends recorded =>
      have appended : outcome.after.recorder.events = [event] := recorded
      have sendsCode : event.sendsCode = true := by
        rw [Event.sendsCode, kind]
        rfl
      rw [appended]
      constructor
      · exact ⟨event, lastSent?_concat events sendsCode, sends⟩
      · rw [List.filter_append, identity]
        simpa [kind] using begun

end Live

theorem Life.live {policy : Policy} {id : RegistrationId} {steps : List Step}
    {snapshot : Snapshot} (life : Life (· = policy) id steps snapshot) :
    Live policy (told id steps) snapshot := by
  -- The events are those that the steps told of the registration, in the order of the steps.
  induction life with
  | issued unheard allowed issued committed =>
      obtain ⟨_, code, _, _, _, _, _, timers, rfl⟩ := Registration.issue_eq_ok issued
      obtain ⟨expiry, cooldown⟩ := Registration.timers_eq_ok timers
      rw [allowed] at expiry cooldown
      rw [told_append, told_cons, told_nil, unheard, Step.told_self committed]
      constructor
      · exact ⟨_, rfl, { code := rfl, codeExpiresAt := expiry, resendTimeout := cooldown }⟩
      · exact ⟨_, rfl, { registrationId := rfl, email := rfl, timestamp := rfl }⟩
  | quiet life tells notCommitted ih =>
      rw [told_append, told_cons, told_nil, tells, List.append_nil, List.append_nil]
      exact ih
  | @operated earlier step stored operation outcome life allowed access found change first
      committed commits ih =>
      have posts := change.posts
      rw [allowed] at posts
      rw [told_append, told_cons, told_nil, Step.told_self committed, List.append_nil]
      exact ih.operated change.identity posts

/-- In a run under one policy, usable or not, a stored registration has the code and the
timers of the event that last sent it a code, and the identity of the event that began it. -/
theorem Run.live_credential {policy : Policy} {steps : List Step} {store : Store}
    (run : Run (Access.IsStandard (· = policy)) steps store) {id : RegistrationId}
    {record : StoredRegistration} (found : store.records.get? id = some record) :
    Live policy ((store.eventsOf id).map StoredEvent.event) record.snapshot := by
  rw [run.eventsOf_eq]
  exact (run.life found).live

/-- After the resend of the sample it is the second code that counts. -/
theorem live_credential_after_recovery :
    Run (Access.IsStandard (· = .brief)) (trace .empty recovery)
        (Store.empty.afterAll recovery) ∧
      ∃ record, (Store.empty.afterAll recovery).records.get? ⟨.nil⟩ = some record ∧
        record.snapshot.code = ⟨"B"⟩ ∧
        Live .brief (((Store.empty.afterAll recovery).eventsOf ⟨.nil⟩).map StoredEvent.event)
          record.snapshot := by
  exact ⟨run_recovery, _, rfl, rfl, run_recovery.live_credential rfl⟩

end Enrolment
