/-
What a call to the service comes down to. Once the arguments are read a call is refused, or it is
one access to storage; this is settled by the call, the policy and the moment alone. What
storage does with it makes a dealing, and the publisher is handed the dealing when it is over.
-/

import Enrolment.Proofs.Receipt
import Enrolment.Service

namespace Enrolment

structure Request where
  moment : Moment
  call : Call

/-- An access to storage in the place of a call, or the refusal to make one. -/
inductive Errand where
  | refuse (error : RegistrationError)
  | save (registration : Registration)
  | find (key : Key)
  | operate (email : Email) (operation : Operation)

namespace Errand

def access? : Errand → Option Access
  | .refuse _ => none
  | .save registration => some (.save registration)
  | .find key => some (.find key)
  | .operate email operation => some (.operate (.email email) operation)

def toAddress (text : String) (next : Email → Errand) : Errand :=
  match Email.parse text with
  | .ok email => next email
  | .error cause => .refuse (.invalidEmail cause)

def command (policy : Policy) (moment : Moment) (text : String) (command : Command) : Errand :=
  toAddress text fun email => .operate email { command, policy, occasion := moment.occasion }

end Errand

namespace Request

variable (policy : Policy) (derive : Derivation)

def errand (request : Request) : Errand :=
  match request.call with
  | .start text =>
      match Registration.issue policy request.moment.occasion request.moment.registrationId text with
      | .error error => .refuse error
      | .ok registration => .save registration
  | .verify text candidate => .command policy request.moment text (.verify candidate)
  | .check text candidate => .command policy request.moment text (.check candidate)
  | .resend text => .command policy request.moment text .resend
  | .complete text candidate account password =>
      match password.hash derive policy.hashing request.moment.salt with
      | .error error => .refuse error
      | .ok hash => .command policy request.moment text (.complete candidate account hash)
  | .findByEmail text => .toAddress text fun email => .find (.email email)
  | .findById id => .find (.id id)

def address? (request : Request) : Option String :=
  match request.call with
  | .start text | .verify text _ | .check text _ | .resend text | .complete text _ _ _
  | .findByEmail text => some text
  | .findById _ => none

end Request

/-! ### Dealings -/

/-- What storage did with an errand: the events that it committed, its state after them, and
what there is to report when they have been delivered. -/
structure Dealing where
  result : Except ServiceError Registration
  events : List Event
  storage : Store

namespace Dealing

def ofReceipt (answer : Except RepositoryError Receipt × Store) : Dealing :=
  match answer with
  | (.ok receipt, storage) =>
      { result := receipt.result.mapError .registration, events := receipt.events, storage }
  | (.error error, storage) => { result := .error (.ofRepository error), events := [], storage }

def conclude {π : Type} (publisher : Publisher π) (dealing : Dealing) (channel : π) :
    Answer Store π :=
  if dealing.events = [] then
    { result := dealing.result, after := { storage := dealing.storage, channel } }
  else
    match publisher.publish dealing.events channel with
    | (.ok (), channel) =>
        { result := dealing.result, after := { storage := dealing.storage, channel } }
    | (.error error, channel) =>
        { result := .error (.messaging error), after := { storage := dealing.storage, channel } }

end Dealing

def Errand.dealing (store : Store) : Errand → Dealing
  | .refuse error => { result := .error (.registration error), events := [], storage := store }
  | .save registration => .ofReceipt (Store.save registration store)
  | .find key =>
      { result := (Store.findBy key store).1.mapError .ofRepository
        events := []
        storage := (Store.findBy key store).2 }
  | .operate email operation =>
      .ofReceipt (Store.mutateBy (.email email) (.ofOperation operation) store)

/-! ### The service over storage in memory -/

namespace Service

variable {π : Type}

def inMemory (publisher : Publisher π) (policy : Policy) (derive : Derivation) :
    Service Store π :=
  { repository := Store.repository, publisher, policy, derive }

def serve (service : Service Store π) (backends : Backends Store π) (request : Request) :
    Answer Store π :=
  service.perform request.moment backends request.call

def afterAll (service : Service Store π) (backends : Backends Store π)
    (requests : List Request) : Backends Store π :=
  requests.foldl (fun backends request => (service.serve backends request).after) backends

variable (publisher : Publisher π) (policy : Policy) (derive : Derivation)

theorem keep_eq (call : StorageCall Store Receipt) (backends : Backends Store π) :
    (inMemory publisher policy derive).keep call backends =
      (Dealing.ofReceipt (call backends.storage)).conclude publisher backends.channel := by
  unfold keep
  cases call backends.storage with
  | mk answer storage =>
      cases answer with
      | error error => rfl
      | ok receipt => rfl

theorem execute_eq (moment : Moment) (text : String) (command : Command)
    (backends : Backends Store π) :
    (inMemory publisher policy derive).execute moment text command backends =
      ((Errand.command policy moment text command).dealing backends.storage).conclude publisher
        backends.channel := by
  unfold execute withAddress Errand.command Errand.toAddress
  cases Email.parse text with
  | error cause => rfl
  | ok email => exact keep_eq publisher policy derive _ backends

theorem find_eq (key : Key) (backends : Backends Store π) :
    find (Store.findBy key) backends =
      ((Errand.find key).dealing backends.storage).conclude publisher backends.channel := rfl

/-- The publisher has no part in a call before storage is done with it. -/
theorem serve_eq (backends : Backends Store π) (request : Request) :
    (inMemory publisher policy derive).serve backends request =
      ((request.errand policy derive).dealing backends.storage).conclude publisher
        backends.channel := by
  obtain ⟨moment, call⟩ := request
  cases call with
  | start text =>
      unfold serve perform Request.errand
      dsimp only [inMemory]
      cases Registration.issue policy moment.occasion moment.registrationId text with
      | error error => rfl
      | ok registration => exact keep_eq publisher policy derive _ backends
  | verify text candidate | check text candidate =>
      exact execute_eq publisher policy derive moment text _ backends
  | resend text => exact execute_eq publisher policy derive moment text _ backends
  | complete text candidate account password =>
      unfold serve perform Request.errand
      dsimp only [inMemory]
      cases password.hash derive policy.hashing moment.salt with
      | error error => rfl
      | ok hash => exact execute_eq publisher policy derive moment text _ backends
  | findByEmail text =>
      unfold serve perform withAddress Request.errand Errand.toAddress
      dsimp only
      cases Email.parse text with
      | error cause => rfl
      | ok email => exact find_eq publisher (.email email) backends
  | findById id => exact find_eq publisher (.id id) backends

end Service

namespace Dealing

theorem storage_ofReceipt (answer : Except RepositoryError Receipt × Store) :
    (ofReceipt answer).storage = answer.2 := by
  obtain ⟨answer, storage⟩ := answer
  cases answer with
  | ok receipt => rfl
  | error error => rfl

variable {π : Type} (publisher : Publisher π) (dealing : Dealing) (channel : π)

theorem storage_conclude :
    (dealing.conclude publisher channel).after.storage = dealing.storage := by
  unfold conclude
  split
  · rfl
  · split
    · rfl
    · rfl

theorem conclude_of_silent (silent : dealing.events = []) :
    dealing.conclude publisher channel =
      { result := dealing.result, after := { storage := dealing.storage, channel } } := by
  rw [conclude, if_pos silent]

end Dealing

/-! ### How errands end -/

inductive Errand.Ending (store : Store) : Errand → Dealing → Prop
  | refused {error : RegistrationError} :
      Ending store (.refuse error)
        { result := .error (.registration error), events := [], storage := store }
  | duplicate {registration : Registration}
      (present : store.records.get? registration.id ≠ none) :
      Ending store (.save registration)
        { result := .error (.repository (.alreadyExists registration.id)), events := []
          storage := store }
  | saved {registration : Registration} (absent : store.records.get? registration.id = none) :
      Ending store (.save registration)
        { result := .ok registration.commitEvents.2
          events := registration.recorder.events
          storage :=
            { store.commit registration 1 with
              addresses := store.addresses.insert registration.email registration.id } }
  | found {key : Key} {registration : Registration}
      (found : (Store.findBy key store).1 = .ok registration) :
      Ending store (.find key) { result := .ok registration, events := [], storage := store }
  | notFound {key : Key} {text : String}
      (missing : (Store.findBy key store).1 = .error (.notFound text)) :
      Ending store (.find key)
        { result := .error (.repository (.notFound text)), events := [], storage := store }
  | lost {email : Email} {operation : Operation} {text : String}
      (missing : ∀ id, store.addresses.get? email = some id → store.records.get? id = none) :
      Ending store (.operate email operation)
        { result := .error (.repository (.notFound text)), events := [], storage := store }
  | rejected {email : Email} {operation : Operation} {id : RegistrationId}
      {stored : StoredRegistration} {error : RegistrationError}
      (located : store.addresses.get? email = some id)
      (found : store.records.get? id = some stored)
      (decided : stored.decision (.ofOperation operation) = .reject error) :
      Ending store (.operate email operation)
        { result := .error (.registration error), events := [], storage := store }
  | unchanged {email : Email} {operation : Operation} {id : RegistrationId}
      {stored : StoredRegistration} (located : store.addresses.get? email = some id)
      (found : store.records.get? id = some stored)
      (decided : stored.decision (.ofOperation operation) = .unchanged) :
      Ending store (.operate email operation)
        { result := .ok (.rehydrate stored.snapshot), events := [], storage := store }
  | committed {email : Email} {operation : Operation} {id : RegistrationId}
      {stored : StoredRegistration} {registration : Registration}
      (located : store.addresses.get? email = some id)
      (found : store.records.get? id = some stored)
      (decided : stored.decision (.ofOperation operation) = .commit registration) :
      Ending store (.operate email operation)
        { result := .ok registration.commitEvents.2
          events := registration.recorder.events
          storage := store.commit registration (stored.version + 1) }
  | failed {email : Email} {operation : Operation} {id : RegistrationId}
      {stored : StoredRegistration} {registration : Registration} {error : RegistrationError}
      (located : store.addresses.get? email = some id)
      (found : store.records.get? id = some stored)
      (decided : stored.decision (.ofOperation operation) = .commitAndFail registration error) :
      Ending store (.operate email operation)
        { result := .error (.registration error)
          events := registration.recorder.events
          storage := store.commit registration (stored.version + 1) }

namespace Store

theorem findById_error {store : Store} {id : RegistrationId} {error : RepositoryError}
    (failed : store.findById id = .error error) : error = .notFound id.text := by
  unfold findById record at failed
  cases found : store.records.get? id with
  | some stored =>
      rw [found] at failed
      cases failed
  | none =>
      rw [found] at failed
      exact (Except.error.inj failed).symm

theorem findBy_error {store : Store} {key : Key} {error : RepositoryError}
    (failed : (findBy key store).1 = .error error) : ∃ text, error = .notFound text := by
  cases key with
  | id id => exact ⟨id.text, findById_error failed⟩
  | email email =>
      change store.findByEmail email = .error error at failed
      unfold findByEmail latest at failed
      cases indexed : store.addresses.get? email with
      | some id =>
          rw [indexed] at failed
          exact ⟨id.text, findById_error failed⟩
      | none =>
          rw [indexed] at failed
          exact ⟨email.address, (Except.error.inj failed).symm⟩

theorem log_commit (store : Store) (registration : Registration) (version : Nat) :
    (store.commit registration version).log.map StoredEvent.event =
      store.log.map StoredEvent.event ++ registration.recorder.events := by
  change (store.log ++ number registration.id _ _).map StoredEvent.event = _
  rw [List.map_append, number_event]

end Store

namespace Errand

variable {store : Store}

theorem ending_save (registration : Registration) :
    Ending store (.save registration) ((Errand.save registration).dealing store) := by
  have called : (Errand.save registration).dealing store =
      .ofReceipt (Store.save registration store) := rfl
  rw [called]
  unfold Store.save
  cases present : store.records.get? registration.id with
  | some stored =>
      apply Ending.duplicate
      rw [present]
      exact Option.some_ne_none stored
  | none => exact .saved present

theorem ending_find (key : Key) : Ending store (.find key) ((Errand.find key).dealing store) := by
  have asked : (Errand.find key).dealing store =
      { result := (Store.findBy key store).1.mapError .ofRepository
        events := []
        storage := (Store.findBy key store).2 } := rfl
  have same : (Store.findBy key store).2 = store := by cases key <;> rfl
  rw [asked, same]
  cases answer : (Store.findBy key store).1 with
  | ok registration => exact .found answer
  | error error =>
      obtain ⟨text, rfl⟩ := Store.findBy_error answer
      exact .notFound answer

theorem ending_operate (email : Email) (operation : Operation) :
    Ending store (.operate email operation) ((Errand.operate email operation).dealing store) := by
  have called : (Errand.operate email operation).dealing store =
      .ofReceipt (Store.mutateBy (.email email) (.ofOperation operation) store) := rfl
  rw [called]
  rcases store.mutateBy_cases (.email email) (.ofOperation operation) with
    ⟨missing, text, lost⟩ | ⟨id, stored, located, found, ended⟩
  · rw [lost]
    exact .lost missing
  · rw [ended]
    cases decided : stored.decision (.ofOperation operation) with
    | reject error => exact .rejected located found decided
    | unchanged => exact .unchanged located found decided
    | commit registration => exact .committed located found decided
    | commitAndFail registration error => exact .failed located found decided

theorem ending (errand : Errand) (store : Store) : Ending store errand (errand.dealing store) := by
  cases errand with
  | refuse error => exact .refused
  | save registration => exact ending_save registration
  | find key => exact ending_find key
  | operate email operation => exact ending_operate email operation

/-- What an errand commits is what the log has more than before. -/
theorem log_dealing (errand : Errand) (store : Store) :
    (errand.dealing store).storage.log.map StoredEvent.event =
      store.log.map StoredEvent.event ++ (errand.dealing store).events := by
  have ending := errand.ending store
  generalize errand.dealing store = dealing at ending
  cases ending with
  | refused | duplicate | found | notFound | lost | rejected | unchanged =>
      exact (List.append_nil _).symm
  | saved absent => exact store.log_commit _ 1
  | committed | failed => exact store.log_commit _ _

end Errand

namespace Request

def Decides (policy : Policy) (derive : Derivation) (request : Request) (store : Store)
    (email : Email) (decision : Transition) : Prop :=
  ∃ operation id stored, request.errand policy derive = .operate email operation ∧
    store.addresses.get? email = some id ∧ store.records.get? id = some stored ∧
    stored.decision (.ofOperation operation) = decision

theorem Decides.dealing {policy : Policy} {derive : Derivation} {request : Request}
    {store : Store} {email : Email} {decision : Transition}
    (decides : request.Decides policy derive store email decision) :
    ∃ stored, (request.errand policy derive).dealing store =
      .ofReceipt (stored.answer decision, store.settle stored decision) := by
  obtain ⟨operation, id, stored, errand, located, found, decided⟩ := decides
  have addressed : store.locate? (.email email) = some id := located
  refine ⟨stored, ?_⟩
  rw [errand, ← decided]
  exact congrArg Dealing.ofReceipt (Store.mutateBy_of_found addressed found)

end Request

/-! ### Storage behind the service -/

theorem Errand.storage_dealing (errand : Errand) (store : Store) :
    (errand.dealing store).storage =
      match errand.access? with
      | some access => access.next store
      | none => store := by
  cases errand with
  | refuse error => rfl
  | find key => rfl
  | save registration => exact Dealing.storage_ofReceipt _
  | operate email operation => exact Dealing.storage_ofReceipt _

namespace Request

variable {policy : Policy} {derive : Derivation} {moment : Moment} {text : String}

inductive Fits (policy : Policy) (text : Option String) : Errand → Prop
  | refused {error : RegistrationError} : Fits policy text (.refuse error)
  | saved {occasion : Occasion} {id : RegistrationId} {address : String}
      {registration : Registration} (named : text = some address)
      (issued : Registration.issue policy occasion id address = .ok registration) :
      Fits policy text (.save registration)
  | found {key : Key} : Fits policy text (.find key)
  | operated {address : String} {email : Email} {operation : Operation}
      (named : text = some address) (parsed : Email.parse address = .ok email)
      (samePolicy : operation.policy = policy) : Fits policy text (.operate email operation)

theorem fits_command (command : Command) :
    Fits policy (some text) (.command policy moment text command) := by
  unfold Errand.command Errand.toAddress
  cases parsed : Email.parse text with
  | ok email => exact .operated rfl parsed rfl
  | error cause => exact .refused

theorem fits (request : Request) : Fits policy request.address? (request.errand policy derive) := by
  obtain ⟨moment, call⟩ := request
  cases call with
  | start text =>
      unfold errand
      dsimp only
      cases issued : Registration.issue policy moment.occasion moment.registrationId text with
      | ok registration => exact .saved rfl issued
      | error error => exact .refused
  | verify text candidate | check text candidate => exact fits_command _
  | resend text => exact fits_command _
  | complete text candidate account password =>
      unfold errand
      dsimp only
      cases password.hash derive policy.hashing moment.salt with
      | ok hash => exact fits_command _
      | error error => exact .refused
  | findByEmail text =>
      unfold errand Errand.toAddress
      dsimp only
      cases Email.parse text with
      | ok email => exact .found
      | error cause => exact .refused
  | findById id => exact .found

theorem Fits.isStandard {name : Option String} {errand : Errand} {access : Access}
    (fits : Fits policy name errand) (made : errand.access? = some access) :
    access.IsStandard (· = policy) := by
  cases fits with
  | refused => cases made
  | saved named issued =>
      rw [← Option.some.inj made]
      exact ⟨policy, _, _, _, rfl, issued⟩
  | found =>
      rw [← Option.some.inj made]
      trivial
  | operated named parsed samePolicy =>
      rw [← Option.some.inj made]
      exact samePolicy

end Request

/-- What the service makes of its storage is a standard run, whoever is told of it. -/
theorem Run.serve {π : Type} (publisher : Publisher π) {policy : Policy} (derive : Derivation)
    {steps : List Step} {backends : Backends Store π}
    (run : Run (Access.IsStandard (· = policy)) steps backends.storage) (requests : List Request) :
    ∃ more, Run (Access.IsStandard (· = policy)) (steps ++ more)
      ((Service.inMemory publisher policy derive).afterAll backends requests).storage := by
  induction requests generalizing steps backends with
  | nil => exact ⟨[], by rw [List.append_nil]; exact run⟩
  | cons request rest ih =>
      have storage :
          ((Service.inMemory publisher policy derive).serve backends request).after.storage =
            ((request.errand policy derive).dealing backends.storage).storage := by
        rw [Service.serve_eq, Dealing.storage_conclude]
      rw [Errand.storage_dealing] at storage
      cases made : (request.errand policy derive).access? with
      | none =>
          rw [made] at storage
          exact ih (storage ▸ run)
      | some access =>
          rw [made] at storage
          dsimp only at storage
          have next := run.next access (request.fits.isStandard made)
          rw [← storage] at next
          obtain ⟨more, whole⟩ := ih next
          exact ⟨_ :: more, by rw [List.append_cons]; exact whole⟩

end Enrolment
