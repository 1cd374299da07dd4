/-
What storage of registrations offers: saving a new one, finding one, and running
a unit of work on a stored one. Whatever it keeps, it keeps together with the
events that tell about it, and answers with a receipt.
-/

import Enrolment.Mutation

namespace Enrolment

inductive RepositoryError where
  | notFound (key : String)
  | alreadyExists (id : RegistrationId)
  | concurrencyConflict (expected actual : Nat)
  /-- The unit of work failed, and nothing was kept. -/
  | rejected (error : RegistrationError)
  | storage (reason : String)
  deriving DecidableEq

def RepositoryError.title : RepositoryError → String
  | .notFound _ => "NotFound"
  | .alreadyExists _ => "AlreadyExists"
  | .concurrencyConflict _ _ => "ConcurrencyConflict"
  | .rejected _ => "Rejected"
  | .storage _ => "Storage"

def RepositoryError.message : RepositoryError → String
  | .notFound key => s!"Registration not found: {key}"
  | .alreadyExists id => s!"Registration already exists: {id}"
  | .concurrencyConflict expected actual =>
      s!"Concurrency conflict: expected version {expected}, got {actual}"
  | .rejected error => error.message
  | .storage reason => s!"Storage error: {reason}"

/-- What a call left in storage. -/
structure Receipt where
  /-- The registration as it is stored now. -/
  registration : Registration
  /-- The events that the call added, in the order of recording. -/
  events : List Event
  version : Nat
  /-- The failure that the unit of work reported although its change was kept. -/
  failure : Option RegistrationError
  deriving DecidableEq

/-- The registration, or the failure that came with it. -/
def Receipt.result (receipt : Receipt) : Except RegistrationError Registration :=
  match receipt.failure with
  | some error => .error error
  | none => .ok receipt.registration

/-- A call on storage in a state of type `σ`: an answer and the state after it. -/
abbrev StorageCall (σ α : Type) := σ → Except RepositoryError α × σ

structure Repository (σ : Type) where
  save : Registration → StorageCall σ Receipt
  findById : RegistrationId → StorageCall σ Registration
  /-- Finds the registration that was last saved for the address. -/
  findByEmail : Email → StorageCall σ Registration
  mutateById : RegistrationId → Mutation → StorageCall σ Receipt
  mutateByEmail : Email → Mutation → StorageCall σ Receipt

end Enrolment
