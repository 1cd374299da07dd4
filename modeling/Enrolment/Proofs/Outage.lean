/-
Failures to deliver. Storage is done with a call before the publisher hears of it, so no outage
of the publisher, however it comes and goes, can be seen in what is stored. It is seen in the
answers alone, and there only where a call committed events that the publisher refused.
-/

import Enrolment.Proofs.Errand

namespace Enrolment

variable {π ρ : Type}

/-- One call, answered over the same storage by services with a publisher each. -/
structure Indifferent (policy : Policy) (derive : Derivation) (publisher : Publisher π)
    (request : Request) (before : Backends Store π) (answer : Answer Store π)
    (other : Answer Store ρ) : Prop where
  storage : answer.after.storage = other.after.storage
  messaging_iff : ∀ error, answer.result = .error (.messaging error) ↔
    ∃ events, events ≠ [] ∧
      answer.after.storage.log.map StoredEvent.event =
        before.storage.log.map StoredEvent.event ++ events ∧
      (publisher.publish events before.channel).1 = .error error
  /-- The failure of the unit of work gives way to that of the delivery. -/
  persistent : ∀ email registration failure error,
    request.Decides policy derive before.storage email (.commitAndFail registration failure) →
    registration.recorder.events ≠ [] →
    (publisher.publish registration.recorder.events before.channel).1 = .error error →
      answer.result = .error (.messaging error)
  result : (∀ error, answer.result ≠ .error (.messaging error)) →
    (∀ error, other.result ≠ .error (.messaging error)) → answer.result = other.result

/-! ### Handing over -/

namespace Dealing

variable {publisher : Publisher π} {dealing : Dealing} {channel : π}

def IsLocal (dealing : Dealing) : Prop :=
  ∀ error, dealing.result ≠ .error (.messaging error)

theorem conclude_of_refused {error : MessagingError} (events : dealing.events ≠ [])
    (refused : (publisher.publish dealing.events channel).1 = .error error) :
    (dealing.conclude publisher channel).result = .error (.messaging error) := by
  rw [conclude, if_neg events]
  generalize publisher.publish dealing.events channel = published at refused
  obtain ⟨verdict, next⟩ := published
  subst refused
  rfl

theorem conclude_of_delivered
    (delivered : dealing.events ≠ [] → (publisher.publish dealing.events channel).1 = .ok ()) :
    (dealing.conclude publisher channel).result = dealing.result := by
  by_cases silent : dealing.events = []
  · rw [conclude_of_silent publisher dealing channel silent]
  · have taken := delivered silent
    rw [conclude, if_neg silent]
    generalize publisher.publish dealing.events channel = published at taken
    obtain ⟨verdict, next⟩ := published
    subst taken
    rfl

theorem conclude_cases (publisher : Publisher π) (dealing : Dealing) (channel : π) :
    (dealing.conclude publisher channel).result = dealing.result ∨
      ∃ error, dealing.events ≠ [] ∧
        (publisher.publish dealing.events channel).1 = .error error ∧
        (dealing.conclude publisher channel).result = .error (.messaging error) := by
  by_cases silent : dealing.events = []
  · left
    exact conclude_of_delivered fun events => absurd silent events
  · cases verdict : (publisher.publish dealing.events channel).1 with
    | ok =>
        left
        exact conclude_of_delivered fun _ => verdict
    | error error =>
        right
        exact ⟨error, silent, rfl, conclude_of_refused silent verdict⟩

theorem messaging_iff_of_local (isLocal : dealing.IsLocal) (error : MessagingError) :
    (dealing.conclude publisher channel).result = .error (.messaging error) ↔
      dealing.events ≠ [] ∧ (publisher.publish dealing.events channel).1 = .error error := by
  constructor
  · intro reported
    rcases conclude_cases publisher dealing channel with own | ⟨cause, events, refused, result⟩
    · rw [own] at reported
      exact absurd reported (isLocal error)
    · rw [result] at reported
      cases reported
      exact ⟨events, refused⟩
  · rintro ⟨events, refused⟩
    exact conclude_of_refused events refused

end Dealing

theorem Errand.dealing_isLocal (errand : Errand) (store : Store) :
    (errand.dealing store).IsLocal := by
  intro error reported
  have ending := errand.ending store
  generalize errand.dealing store = dealing at ending reported
  cases ending with
  | refused | duplicate | notFound | lost | rejected | failed => cases reported
  | saved | found | unchanged | committed => cases reported

/-! ### Two services -/

namespace Service

theorem storage_serve_eq (publisher : Publisher π) (other : Publisher ρ) (policy : Policy)
    (derive : Derivation) {backends : Backends Store π} {others : Backends Store ρ}
    (same : backends.storage = others.storage) (request : Request) :
    ((inMemory publisher policy derive).serve backends request).after.storage =
      ((inMemory other policy derive).serve others request).after.storage := by
  rw [serve_eq, serve_eq, Dealing.storage_conclude, Dealing.storage_conclude, same]

theorem storage_afterAll_eq (publisher : Publisher π) (other : Publisher ρ) (policy : Policy)
    (derive : Derivation) {backends : Backends Store π} {others : Backends Store ρ}
    (same : backends.storage = others.storage) (requests : List Request) :
    ((inMemory publisher policy derive).afterAll backends requests).storage =
      ((inMemory other policy derive).afterAll others requests).storage := by
  induction requests generalizing backends others with
  | nil => exact same
  | cons request rest ih => exact ih (storage_serve_eq publisher other policy derive same request)

/-- After the same calls two services hold the same storage, whatever their publishers did, and
they answer the next call alike unless one of them fails to deliver its events. -/
theorem indifferent (publisher : Publisher π) (other : Publisher ρ) (policy : Policy)
    (derive : Derivation) (store : Store) (channel : π) (otherChannel : ρ)
    (earlier : List Request) (request : Request) :
    Indifferent policy derive publisher request
      ((inMemory publisher policy derive).afterAll { storage := store, channel } earlier)
      ((inMemory publisher policy derive).serve
        ((inMemory publisher policy derive).afterAll { storage := store, channel } earlier) request)
      ((inMemory other policy derive).serve
        ((inMemory other policy derive).afterAll
          { storage := store, channel := otherChannel } earlier) request) := by
  have alike : ({ storage := store, channel } : Backends Store π).storage =
      ({ storage := store, channel := otherChannel } : Backends Store ρ).storage := rfl
  have same := storage_afterAll_eq publisher other policy derive alike earlier
  generalize (inMemory publisher policy derive).afterAll _ earlier = before at same
  generalize (inMemory other policy derive).afterAll _ earlier = others at same
  have isLocal := (request.errand policy derive).dealing_isLocal before.storage
  have log := (request.errand policy derive).log_dealing before.storage
  rw [serve_eq, serve_eq, ← same]
  constructor
  · rw [Dealing.storage_conclude, Dealing.storage_conclude]
  · intro error
    rw [Dealing.messaging_iff_of_local isLocal, Dealing.storage_conclude, log]
    constructor
    · rintro ⟨events, refused⟩
      exact ⟨_, events, rfl, refused⟩
    · rintro ⟨events, some, added, refused⟩
      rw [List.append_cancel_left added]
      exact ⟨some, refused⟩
  · intro email registration failure error decides events refused
    obtain ⟨stored, dealt⟩ := decides.dealing
    rw [dealt]
    exact Dealing.conclude_of_refused events refused
  · intro delivered otherDelivered
    rcases Dealing.conclude_cases publisher ((request.errand policy derive).dealing before.storage)
      before.channel with own | ⟨error, _, _, result⟩
    · rcases Dealing.conclude_cases other ((request.errand policy derive).dealing before.storage)
        others.channel with otherOwn | ⟨error, _, _, result⟩
      · rw [own, otherOwn]
      · exact absurd result (otherDelivered error)
    · exact absurd result (delivered error)

end Service

end Enrolment
