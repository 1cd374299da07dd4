/-
A registration in use. Whoever holds a registration performs operations on it, one after
another and at whatever times, and can take the events that it recorded. Storage uses a
registration in this way too: a session is a usage in which the events are taken after every
operation. So what holds of every usage holds of registrations in storage as well.
-/

import Enrolment.Proofs.Session

namespace Enrolment

open Time

theorem Operation.Change.recorded {operation : Operation} {before : Registration}
    {outcome : Outcome} (change : operation.Change before outcome) :
    ∃ more, outcome.after.recorder.events = before.recorder.events ++ more := by
  cases change with
  | lapsed | missed => exact ⟨[], (List.append_nil _).symm⟩
  | exhausted | verified | resent | completed => exact ⟨_, rfl⟩
  | completedAtOnce => exact ⟨_, List.append_assoc before.recorder.events [_] [_]⟩

/-! ### Performances -/

structure Performance where
  before : Registration
  operation : Operation

namespace Performance

def outcome (performance : Performance) : Outcome :=
  performance.operation.run performance.before

def after (performance : Performance) : Registration :=
  performance.outcome.after

def events (performance : Performance) : List Event :=
  performance.after.recorder.events.drop performance.before.recorder.events.length

def now (performance : Performance) : Instant :=
  performance.operation.occasion.now

/-- How a performance ends. Only a change can leave another state and events; which events they
are depends on the change. -/
inductive Ending (performance : Performance) : Prop
  | refused {error : RegistrationError}
      (cause : performance.operation.Refusal performance.before error)
      (ran : performance.outcome = performance.before.refuse error)
      (after : performance.after = performance.before) (events : performance.events = [])
  | passed (idle : performance.operation.Idle performance.before)
      (ran : performance.outcome = performance.before.done)
      (after : performance.after = performance.before) (events : performance.events = [])
  | changed {outcome : Outcome}
      (change : performance.operation.Change performance.before outcome)
      (ran : performance.outcome = outcome) (after : performance.after = outcome.after)

variable {performance : Performance}

theorem events_of_recorded {registration : Registration} {more : List Event}
    (after : performance.after = registration)
    (recorded : registration.recorder.events = performance.before.recorder.events ++ more) :
    performance.events = more := by
  rw [events, after, recorded, List.drop_left]

theorem ending (performance : Performance) : performance.Ending := by
  have course := performance.operation.course performance.before
  generalize ran : performance.operation.run performance.before = outcome at course
  change performance.outcome = outcome at ran
  have after : performance.after = outcome.after := congrArg Outcome.after ran
  cases course with
  | refused cause =>
      exact .refused cause ran after (events_of_recorded after (List.append_nil _).symm)
  | passed idle =>
      exact .passed idle ran after (events_of_recorded after (List.append_nil _).symm)
  | changed change => exact .changed change ran after

theorem recorder_after (performance : Performance) :
    performance.after.recorder.events =
      performance.before.recorder.events ++ performance.events := by
  cases performance.ending with
  | refused cause ran after events | passed idle ran after events =>
      rw [after, events, List.append_nil]
  | changed change ran after =>
      obtain ⟨more, recorded⟩ := change.recorded
      rw [after, events_of_recorded after recorded, recorded]

end Performance

def recordedIn (performances : List Performance) : List Event :=
  performances.flatMap Performance.events

@[simp] theorem recordedIn_concat (performances : List Performance) (performance : Performance) :
    recordedIn (performances ++ [performance]) =
      recordedIn performances ++ performance.events := by
  simp [recordedIn]

/-! ### Usages -/

/-- Operations that are allowed, performed on a registration from its start on, and the
registration that they lead to. -/
inductive Usage (allowed : Operation → Prop) (start : Registration) :
    List Performance → Registration → Prop
  | start : Usage allowed start [] start
  | perform {performances : List Performance} {registration : Registration}
      (earlier : Usage allowed start performances registration) (operation : Operation)
      (permitted : allowed operation) :
      Usage allowed start (performances ++ [⟨registration, operation⟩])
        (⟨registration, operation⟩ : Performance).after
  | commitEvents {performances : List Performance} {registration : Registration}
      (earlier : Usage allowed start performances registration) :
      Usage allowed start performances registration.commitEvents.2

/-- What is still in the recorder is the end of all that was recorded. -/
theorem Usage.suffix {allowed : Operation → Prop} {start registration : Registration}
    {performances : List Performance} (usage : Usage allowed start performances registration) :
    registration.recorder.events <:+ start.recorder.events ++ recordedIn performances := by
  induction usage with
  | start => exact ⟨[], by simp [recordedIn]⟩
  | @perform performances registration earlier operation permitted ih =>
      obtain ⟨taken, whole⟩ := ih
      refine ⟨taken, ?_⟩
      rw [Performance.recorder_after, recordedIn_concat, ← List.append_assoc, whole,
        List.append_assoc]
  | commitEvents earlier ih => exact List.nil_suffix

/-! ### Usage by storage -/

namespace Exchange

def performance (exchange : Exchange) : Performance :=
  { before := .rehydrate exchange.before, operation := exchange.operation }

/-- What is not kept would have changed nothing. -/
theorem committed?_cases (exchange : Exchange) :
    exchange.transition.committed? = some exchange.performance.after ∨
      exchange.transition.committed? = none ∧
        exchange.performance.after = .rehydrate exchange.before := by
  have decision := exchange.operation.decision (.rehydrate exchange.before)
  generalize decided : (Mutation.ofOperation exchange.operation).run (.rehydrate exchange.before) =
    transition at decision
  change exchange.transition = transition at decided
  rw [decided]
  cases decision with
  | rejected cause ran => exact Or.inr ⟨rfl, congrArg Outcome.after ran⟩
  | unchanged idle ran => exact Or.inr ⟨rfl, congrArg Outcome.after ran⟩
  | committed ran => exact Or.inl (congrArg some (congrArg Outcome.after ran).symm)
  | counted ran => exact Or.inl (congrArg some (congrArg Outcome.after ran).symm)
  | ended ran => exact Or.inl (congrArg some (congrArg Outcome.after ran).symm)

theorem kept_eq (exchange : Exchange) :
    exchange.after = exchange.performance.after.toSnapshot ∧
      exchange.events = exchange.performance.events := by
  have recorded := exchange.performance.recorder_after
  rcases exchange.committed?_cases with committed | ⟨notCommitted, same⟩
  · obtain ⟨after, events⟩ := kept_of_committed committed
    exact ⟨after, events.trans recorded⟩
  · obtain ⟨after, events⟩ := kept_of_not_committed notCommitted
    rw [same] at recorded ⊢
    exact ⟨after, events.trans recorded⟩

end Exchange

theorem Session.usage {allowed : Operation → Prop} {start : Registration} {snapshot : Snapshot}
    {exchanges : List Exchange} (session : Session allowed start.toSnapshot exchanges snapshot) :
    Usage allowed start (exchanges.map Exchange.performance) (.rehydrate snapshot) := by
  induction session with
  | start => exact Usage.start.commitEvents
  | @next exchanges snapshot earlier operation permitted ih =>
      have after := (⟨snapshot, operation⟩ : Exchange).kept_eq.1
      rw [List.map_append, after]
      exact (ih.perform operation permitted).commitEvents

theorem recordedIn_performances (exchanges : List Exchange) :
    recordedIn (exchanges.map Exchange.performance) = exchanges.flatMap Exchange.events := by
  rw [recordedIn, List.flatMap_map]
  exact congrArg (exchanges.flatMap ·) (funext fun exchange => exchange.kept_eq.2.symm)

/-- What a run of storage does with a registration is a usage of it, and the committed log
holds all that was recorded. -/
theorem Run.usage {policies : Policy → Prop} {steps : List Step} {store : Store}
    (run : Run (Access.IsStandard policies) steps store) {id : RegistrationId}
    {record : StoredRegistration} (found : store.records.get? id = some record) :
    ∃ policy occasion email issued, policies policy ∧
      Registration.issue policy occasion id email = .ok issued ∧
      Usage (fun operation => policies operation.policy) issued
        ((exchangesWith id steps).map Exchange.performance) (.rehydrate record.snapshot) ∧
      (store.eventsOf id).map StoredEvent.event = issued.recorder.events ++
        recordedIn ((exchangesWith id steps).map Exchange.performance) := by
  cases run.held found with
  | @intro policy occasion email issued allowed succeeded session told_eq =>
      refine ⟨policy, occasion, email, issued, allowed, succeeded, session.usage, ?_⟩
      rw [run.eventsOf_eq, told_eq, recordedIn_performances]

/-! ### A sample -/

def Operation.replacement : Operation :=
  { command := .resend, policy := .brief, occasion := .uniform ⟨75, 0, by decide⟩ 1 }

/-- The code is replaced after the wait. Then the clock goes back to the time of the issue,
and the new code completes the registration. -/
def Performance.replacement : List Performance :=
  let resent : Performance := ⟨.unanswered, .replacement⟩
  [resent, ⟨resent.after, .brief (.complete "B" .clerk ⟨""⟩)⟩]

def Registration.replaced : Registration :=
  ((Operation.brief (.complete "B" .clerk ⟨""⟩)).run
    (Operation.replacement.run .unanswered).after).after

theorem Registration.usage_replaced :
    Usage (·.policy = .brief) unanswered Performance.replacement replaced := by
  have untouched : Usage (·.policy = .brief) unanswered [] unanswered := .start
  have resent := untouched.perform .replacement rfl
  exact resent.perform (.brief (.complete "B" .clerk ⟨""⟩)) rfl

end Enrolment
