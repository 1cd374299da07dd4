/-
What no unit of work can change about a registration, and whom its events are
about. Units of work reach a registration only through its operations and by
taking its events, so both facts follow from the courses of operations by
induction on the script.
-/

import Enrolment.Proofs.Course

namespace Enrolment

open Time

structure Identity where
  id : RegistrationId
  email : Email
  createdAt : Instant
  deriving DecidableEq

def Snapshot.identity (snapshot : Snapshot) : Identity :=
  { id := snapshot.id, email := snapshot.email, createdAt := snapshot.createdAt }

def Event.IsAbout (event : Event) (identity : Identity) : Prop :=
  event.version = Event.currentVersion ∧ event.registrationId = identity.id ∧
    event.email = identity.email

namespace Registration

def TellsOfItself (registration : Registration) : Prop :=
  ∀ event ∈ registration.recorder.events, event.IsAbout registration.identity

/-- Registrations as a caller can get hold of them: issued or loaded, and then used
through operations and by taking the recorded events. -/
inductive Built : Registration → Prop
  | issue {policy : Policy} {occasion : Occasion} {id : RegistrationId} {email : String}
      {registration : Registration}
      (succeeded : issue policy occasion id email = .ok registration) : Built registration
  | rehydrate (snapshot : Snapshot) : Built (rehydrate snapshot)
  | operate {registration : Registration} (built : Built registration)
      (operation : Operation) : Built (operation.run registration).after
  | commitEvents {registration : Registration} (built : Built registration) :
      Built registration.commitEvents.2

theorem tellsOfItself_rehydrate (snapshot : Snapshot) : (rehydrate snapshot).TellsOfItself := by
  intro event member
  rw [rehydrate_events] at member
  cases member

theorem tellsOfItself_record {registration : Registration} (occasion : Occasion)
    (eventId : Uuid) (body : EventBody) (tells : registration.TellsOfItself) :
    (registration.record occasion eventId body).TellsOfItself := by
  intro event member
  rw [record_events, List.mem_append, List.mem_singleton] at member
  rcases member with earlier | rfl
  · exact tells event earlier
  · exact ⟨rfl, rfl, rfl⟩

end Registration

/-! ### Operations -/

namespace Operation

theorem Change.identity {operation : Operation} {before : Registration} {outcome : Outcome}
    (change : operation.Change before outcome) :
    outcome.after.identity = before.identity := by
  cases change <;> rfl

theorem identity_run (operation : Operation) (before : Registration) :
    (operation.run before).after.identity = before.identity := by
  have course := operation.course before
  generalize operation.run before = outcome at course
  cases course with
  | refused | passed => rfl
  | changed change => exact change.identity

theorem id_run (operation : Operation) (before : Registration) :
    (operation.run before).after.id = before.id :=
  congrArg Identity.id (operation.identity_run before)

theorem tellsOfItself_run (operation : Operation) {before : Registration}
    (tells : before.TellsOfItself) : (operation.run before).after.TellsOfItself := by
  have course := operation.course before
  generalize operation.run before = outcome at course
  cases course with
  | refused | passed => exact tells
  | changed change =>
      cases change with
      | lapsed | missed => exact tells
      | exhausted | verified | resent | completed =>
          exact Registration.tellsOfItself_record _ _ _ tells
      | completedAtOnce =>
          exact Registration.tellsOfItself_record _ _ _
            (Registration.tellsOfItself_record _ _ _ tells)

end Operation

/-! ### Units of work -/

namespace Script

theorem identity_run (script : Script) (before : Registration) :
    (script.run before).after.identity = before.identity := by
  induction script generalizing before with
  | finish result => rfl
  | observe next ih => exact ih before before
  | perform operation next ih =>
      calc ((next (operation.run before).result).run (operation.run before).after).after.identity
          = (operation.run before).after.identity := ih _ _
        _ = before.identity := operation.identity_run before
  | takeEvents next ih => exact ih _ before.commitEvents.2

theorem id_run (script : Script) (before : Registration) :
    (script.run before).after.id = before.id :=
  congrArg Identity.id (script.identity_run before)

theorem tellsOfItself_run (script : Script) {before : Registration}
    (tells : before.TellsOfItself) : (script.run before).after.TellsOfItself := by
  induction script generalizing before with
  | finish result => exact tells
  | observe next ih => exact ih before tells
  | perform operation next ih => exact ih _ (operation.tellsOfItself_run tells)
  | takeEvents next ih =>
      apply ih
      intro event member
      cases member

end Script

theorem Mutation.eq_after_of_committed {mutation : Mutation} {loaded registration : Registration}
    (kept : (mutation.run loaded).committed? = some registration) :
    registration = (mutation.script.run loaded).after := by
  unfold run at kept
  generalize mutation.script.run loaded = outcome at kept
  obtain ⟨result, after⟩ := outcome
  cases result with
  | ok =>
      dsimp only at kept
      split at kept
      · exact (Option.some.inj kept).symm
      · cases kept
  | error error =>
      dsimp only at kept
      split at kept
      · exact (Option.some.inj kept).symm
      · cases kept

/-- What a unit of work leaves to keep is the same registration, and its events are
about it. -/
theorem Mutation.identity_of_committed {mutation : Mutation} {snapshot : Snapshot}
    {registration : Registration}
    (kept : (mutation.run (.rehydrate snapshot)).committed? = some registration) :
    registration.identity = snapshot.identity ∧ registration.TellsOfItself := by
  rw [eq_after_of_committed kept]
  exact ⟨mutation.script.identity_run (.rehydrate snapshot),
    mutation.script.tellsOfItself_run (Registration.tellsOfItself_rehydrate snapshot)⟩

theorem Mutation.id_of_committed {mutation : Mutation} {snapshot : Snapshot}
    {registration : Registration}
    (kept : (mutation.run (.rehydrate snapshot)).committed? = some registration) :
    registration.id = snapshot.id :=
  congrArg Identity.id (identity_of_committed kept).1

theorem Registration.Built.tellsOfItself {registration : Registration}
    (built : registration.Built) : registration.TellsOfItself := by
  induction built with
  | issue succeeded =>
      obtain ⟨email, code, unused, codeExpiresAt, resendTimeout, _, _, _, rfl⟩ :=
        issue_eq_ok succeeded
      apply tellsOfItself_record
      intro event member
      cases member
  | rehydrate snapshot => exact tellsOfItself_rehydrate snapshot
  | operate built operation ih => exact operation.tellsOfItself_run ih
  | commitEvents built ih =>
      intro event member
      cases member

end Enrolment
