/-
When a registration in storage was last changed. The stamp of the last change is the time of
the last exchange that was kept, whatever the clock said before. A resend and an expiry come
after a timer, and so after the creation; an answer to the code comes at any time before its
expiry, and stamps the registration with that time even if it is before the creation.
-/

import Enrolment.Proofs.Soundness

namespace Enrolment

open Time

theorem Operation.Change.updatedAt {operation : Operation} {before : Registration}
    {outcome : Outcome} (change : operation.Change before outcome) :
    outcome.after.updatedAt = operation.occasion.now := by
  cases change <;> rfl

/-! ### One exchange -/

namespace Exchange

def now (exchange : Exchange) : Instant :=
  exchange.operation.occasion.now

def keptAt? (exchange : Exchange) : Option Instant :=
  if exchange.transition.isCommit then some exchange.now else none

theorem updatedAt_after (exchange : Exchange) :
    exchange.after.updatedAt = exchange.keptAt?.getD exchange.before.updatedAt := by
  cases exchange.ending with
  | refused cause transition reported after events
  | passed idle transition reported after events =>
      rw [keptAt?, transition, after]
      rfl
  | @changed outcome change transition reported after events =>
      have kept : exchange.transition.isCommit = true := by
        rw [transition, Transition.isCommit, outcome.kept_spec.1]
        rfl
      rw [keptAt?, if_pos kept, after]
      exact change.updatedAt

/-- What is kept of an exchange before both timers is neither a resend nor an expiry. -/
theorem answers_of_early {exchange : Exchange} (kept : exchange.keptAt? ≠ none)
    (expiry : exchange.now < exchange.before.codeExpiresAt)
    (cooldown : exchange.now < exchange.before.resendTimeout) :
    exchange.operation.command ≠ .resend ∧
      ∀ instant, exchange.transition.error? ≠ some (.codeExpired instant) := by
  cases exchange.ending with
  | refused cause transition | passed idle transition =>
      rw [keptAt?, transition] at kept
      exact absurd rfl kept
  | changed change transition reported =>
      rw [reported]
      cases change with
      | lapsed tries pending late => exact absurd late (lt_asymm expiry)
      | resent command waited => exact absurd waited (lt_asymm cooldown)
      | missed command | exhausted command | verified command | completed command
      | completedAtOnce command =>
          rw [command]
          refine ⟨Command.noConfusion, ?_⟩
          intro instant same
          cases same

end Exchange

/-! ### Sessions -/

def keptTimes (exchanges : List Exchange) : List Instant :=
  exchanges.filterMap Exchange.keptAt?

def updateTime (began : Instant) (exchanges : List Exchange) : Instant :=
  (keptTimes exchanges).getLastD began

theorem updateTime_concat (began : Instant) (exchanges : List Exchange) (exchange : Exchange) :
    updateTime began (exchanges ++ [exchange]) =
      exchange.keptAt?.getD (updateTime began exchanges) := by
  unfold updateTime keptTimes
  rw [List.filterMap_append]
  cases kept : exchange.keptAt? with
  | none => simp [kept]
  | some instant => simp [kept]

/-- How a stored registration is stamped, and which exchanges can stamp it with a time before
its creation. -/
structure Stamped (began : Instant) (exchanges : List Exchange) (snapshot : Snapshot) :
    Prop where
  createdAt : snapshot.createdAt = began
  updatedAt : snapshot.updatedAt = updateTime began exchanges
  /-- No rule is broken unless the last exchange that was kept came too early. -/
  violation : (Registration.rehydrate snapshot).violation? =
    if updateTime began exchanges < began then some .updatedBeforeCreated else none
  early : ∀ exchange ∈ exchanges, exchange.keptAt? ≠ none → exchange.now < began →
    exchange.operation.command ≠ .resend ∧
      ∀ instant, exchange.transition.error? ≠ some (.codeExpired instant)

namespace Session

theorem updatedAt {allowed : Operation → Prop} {start snapshot : Snapshot}
    {exchanges : List Exchange} (session : Session allowed start exchanges snapshot) :
    snapshot.updatedAt = updateTime start.updatedAt exchanges := by
  induction session with
  | start => rfl
  | @next exchanges snapshot earlier operation permitted ih =>
      calc (⟨snapshot, operation⟩ : Exchange).after.updatedAt
          = (⟨snapshot, operation⟩ : Exchange).keptAt?.getD snapshot.updatedAt :=
            Exchange.updatedAt_after ⟨snapshot, operation⟩
        _ = (⟨snapshot, operation⟩ : Exchange).keptAt?.getD
              (updateTime start.updatedAt exchanges) := by rw [ih]
        _ = updateTime start.updatedAt (exchanges ++ [⟨snapshot, operation⟩]) :=
            (updateTime_concat _ _ _).symm

/-- Under a usable policy a stored registration breaks a rule exactly if the last exchange that
was kept came before its creation, and only the answer to a code can be that exchange. -/
theorem stamped {policy : Policy} (usable : policy.validate = .ok ()) {occasion : Occasion}
    {id : RegistrationId} {email : String} {issued : Registration}
    (succeeded : Registration.issue policy occasion id email = .ok issued)
    {exchanges : List Exchange} {snapshot : Snapshot}
    (session : Session (·.policy = policy) issued.toSnapshot exchanges snapshot) :
    Stamped occasion.now exchanges snapshot := by
  obtain ⟨_, _, sound⟩ := session.usage.sound usable succeeded
  have began : issued.updatedAt = occasion.now := by
    obtain ⟨_, _, _, _, _, _, _, _, rfl⟩ := Registration.issue_eq_ok succeeded
    rfl
  have updatedAt : snapshot.updatedAt = updateTime occasion.now exchanges := by
    rw [session.updatedAt, began]
  constructor
  · exact congrArg Identity.createdAt sound.identity
  · exact updatedAt
  · rw [← updatedAt]
    exact sound.onlyUpdate
  · intro exchange member kept early
    obtain ⟨earlier, later, rfl⟩ := List.append_of_mem member
    obtain ⟨_, _, soundBefore⟩ := session.split.1.usage.sound usable succeeded
    apply Exchange.answers_of_early kept
    · exact lt_trans early soundBefore.expiryAfterCreation
    · exact lt_trans early soundBefore.cooldownAfterCreation

end Session

/-! ### Samples -/

def Operation.early (candidate : String) : Operation :=
  { command := .verify candidate, policy := .brief, occasion := .uniform ⟨-1, 0, by decide⟩ 0 }

/-- After a wrong answer that came early the registration breaks a rule; the resend that
follows mends it. -/
theorem stamped_after_early_answer :
    let start := Registration.unanswered.toSnapshot
    let answered := start.afterAll [.early "B"]
    let resent := start.afterAll [.early "B", .replacement]
    (Policy.brief.validate = .ok () ∧
      (Registration.rehydrate answered).violation? = some .updatedBeforeCreated ∧
      (Registration.rehydrate resent).violation? = none) ∧
    Stamped .epoch (converse start [.early "B"]) answered ∧
    Stamped .epoch (converse start [.early "B", .replacement]) resent := by
  have usable : Policy.brief.validate = .ok () := rfl
  have succeeded : Registration.issue .brief (.uniform .epoch 0) ⟨.nil⟩ "a@b" =
      .ok .unanswered := rfl
  have session (operations : List Operation)
      (permitted : ∀ operation ∈ operations, operation.policy = .brief) :
      Session (·.policy = .brief) Registration.unanswered.toSnapshot
        (converse Registration.unanswered.toSnapshot operations)
        (Registration.unanswered.toSnapshot.afterAll operations) :=
    Session.start.append_converse operations permitted
  refine ⟨⟨usable, by decide, by decide⟩, ?_, ?_⟩
  · exact Session.stamped usable succeeded (session [.early "B"] (by simp [Operation.early]))
  · exact Session.stamped usable succeeded
      (session [.early "B", .replacement] (by simp [Operation.early, Operation.replacement]))

/-- The right answer, too, is stamped with a time before the creation. -/
theorem updated_before_created_of_early_answer :
    ∃ (policy : Policy) (occasion : Occasion) (id : RegistrationId) (email : String)
      (issued : Registration) (exchanges : List Exchange) (snapshot : Snapshot),
      policy.validate = .ok () ∧ Registration.issue policy occasion id email = .ok issued ∧
      Session (·.policy = policy) issued.toSnapshot exchanges snapshot ∧
      snapshot.status = .verified ∧ snapshot.updatedAt < snapshot.createdAt ∧
      (Registration.rehydrate snapshot).violation? = some .updatedBeforeCreated := by
  refine ⟨.brief, .uniform .epoch 0, ⟨.nil⟩, "a@b", .unanswered, _, _, rfl, rfl,
    Session.start.next (.early "A") rfl, ?_, ?_, ?_⟩
  all_goals decide

end Enrolment
