/-
Storage in memory: the state of each registration with a version that counts the
changes, an index that leads from an address to its latest registration, and one
log of all committed events, numbered from 1 without gaps.
-/

import Enrolment.Repository
import Enrolment.Table

namespace Enrolment

/-- A committed event and its place in the log. -/
structure StoredEvent where
  sequence : Nat
  registrationId : RegistrationId
  event : Event
  deriving DecidableEq

structure StoredRegistration where
  snapshot : Snapshot
  version : Nat
  deriving DecidableEq

structure Store where
  records : Table RegistrationId StoredRegistration
  addresses : Table Email RegistrationId
  log : List StoredEvent

namespace Store

def empty : Store := { records := .empty, addresses := .empty, log := [] }

/-! ### Views -/

def size (store : Store) : Nat :=
  store.records.size

def version? (store : Store) (id : RegistrationId) : Option Nat :=
  (store.records.get? id).map StoredRegistration.version

def eventsOf (store : Store) (id : RegistrationId) : List StoredEvent :=
  store.log.filter fun stored => stored.registrationId = id

def eventsOfRequest (store : Store) (correlationId : Uuid) : List StoredEvent :=
  store.log.filter fun stored => stored.event.correlationId = correlationId

/-! ### Finding -/

def record (store : Store) (id : RegistrationId) :
    Except RepositoryError StoredRegistration :=
  match store.records.get? id with
  | some stored => .ok stored
  | none => .error (.notFound id.text)

/-- The registration that was last saved for the address. -/
def latest (store : Store) (email : Email) : Except RepositoryError RegistrationId :=
  match store.addresses.get? email with
  | some id => .ok id
  | none => .error (.notFound email.address)

def findById (store : Store) (id : RegistrationId) : Except RepositoryError Registration :=
  (store.record id).map fun stored => .rehydrate stored.snapshot

def findByEmail (store : Store) (email : Email) : Except RepositoryError Registration := do
  store.findById (← store.latest email)

/-! ### Changing -/

/-- Events of a registration with their places, the first of them given. -/
def number (id : RegistrationId) : Nat → List Event → List StoredEvent
  | _, [] => []
  | sequence, event :: rest =>
      { sequence, registrationId := id, event } :: number id (sequence + 1) rest

/-- Keeps a registration under a version, and its events at the end of the log. -/
def commit (store : Store) (registration : Registration) (version : Nat) : Store :=
  { store with
    records := store.records.insert registration.id
      { snapshot := registration.toSnapshot, version }
    log := store.log ++
      number registration.id (store.log.length + 1) registration.recorder.events }

def receipt (registration : Registration) (version : Nat)
    (failure : Option RegistrationError) : Receipt :=
  let (events, drained) := registration.commitEvents
  { registration := drained, events, version, failure }

def save (registration : Registration) : StorageCall Store Receipt := fun store =>
  match store.records.get? registration.id with
  | some _ => (.error (.alreadyExists registration.id), store)
  | none =>
      (.ok (receipt registration 1 none),
        { store.commit registration 1 with
          addresses := store.addresses.insert registration.email registration.id })

def run (mutation : Mutation) (stored : StoredRegistration) : StorageCall Store Receipt :=
  fun store =>
    match mutation.run (.rehydrate stored.snapshot) with
    | .reject error => (.error (.rejected error), store)
    | .unchanged =>
        (.ok (receipt (.rehydrate stored.snapshot) stored.version none), store)
    | .commit registration =>
        (.ok (receipt registration (stored.version + 1) none),
          store.commit registration (stored.version + 1))
    | .commitAndFail registration error =>
        (.ok (receipt registration (stored.version + 1) (some error)),
          store.commit registration (stored.version + 1))

def mutateById (id : RegistrationId) (mutation : Mutation) : StorageCall Store Receipt :=
  fun store =>
    match store.record id with
    | .error error => (.error error, store)
    | .ok stored => run mutation stored store

def mutateByEmail (email : Email) (mutation : Mutation) : StorageCall Store Receipt :=
  fun store =>
    match store.latest email with
    | .error error => (.error error, store)
    | .ok id => mutateById id mutation store

def repository : Repository Store :=
  { save := save
    findById := fun id store => (store.findById id, store)
    findByEmail := fun email store => (store.findByEmail email, store)
    mutateById := mutateById
    mutateByEmail := mutateByEmail }

end Store

end Enrolment
