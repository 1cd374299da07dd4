/-
The service that callers talk to. It knows the policy, reads the clock once for
each call, keeps registrations in a repository and hands the events that were
kept to a publisher. Events are delivered before a failure is reported, so that
others hear of a registration that failed.
-/

import Enrolment.Delivery
import Enrolment.Repository

namespace Enrolment

inductive ServiceError where
  | registration (error : RegistrationError)
  | repository (error : RepositoryError)
  /-- The events were kept but could not be delivered. -/
  | messaging (error : MessagingError)
  deriving DecidableEq

namespace ServiceError

def title : ServiceError → String
  | .registration _ => "Registration"
  | .repository _ => "Repository"
  | .messaging _ => "Messaging"

def message : ServiceError → String
  | .registration error => error.message
  | .repository error => s!"Repository error: {error.message}"
  | .messaging error => s!"Messaging error: {error.message}"

/-- A rejected unit of work counts as a refusal by the registration. -/
def ofRepository : RepositoryError → ServiceError
  | .rejected error => .registration error
  | error => .repository error

def registrationError? : ServiceError → Option RegistrationError
  | .registration error => some error
  | .repository _ | .messaging _ => none

/-- Whether no registration has the key. -/
def isNotFound : ServiceError → Bool
  | .repository (.notFound _) => true
  | _ => false

end ServiceError

/-! ### Calls -/

/-- The clock at a call, and the random values that it can draw on. -/
structure Moment where
  occasion : Occasion
  registrationId : RegistrationId
  salt : Password.Salt

inductive Call where
  | start (email : String)
  | verify (email candidate : String)
  | check (email candidate : String)
  | resend (email : String)
  | complete (email candidate : String) (account : Account) (password : Password)
  | findByEmail (email : String)
  | findById (id : RegistrationId)

structure Service (σ π : Type) where
  repository : Repository σ
  publisher : Publisher π
  policy : Policy
  derive : Derivation

/-- The states of the repository and of the publisher's channel. -/
structure Backends (σ π : Type) where
  storage : σ
  channel : π

structure Answer (σ π : Type) where
  result : Except ServiceError Registration
  after : Backends σ π

namespace Service

variable {σ π : Type}

/-- Delivers what was kept, if there is anything, and then gives the result. -/
def deliver (service : Service σ π) (receipt : Receipt) (backends : Backends σ π) :
    Answer σ π :=
  let result := receipt.result.mapError .registration
  if receipt.events = [] then { result, after := backends }
  else
    match service.publisher.publish receipt.events backends.channel with
    | (.ok (), channel) => { result, after := { backends with channel } }
    | (.error error, channel) =>
        { result := .error (.messaging error), after := { backends with channel } }

/-- Keeps something in storage and delivers what came of it. -/
def keep (service : Service σ π) (call : StorageCall σ Receipt) (backends : Backends σ π) :
    Answer σ π :=
  match call backends.storage with
  | (.ok receipt, storage) => service.deliver receipt { backends with storage }
  | (.error error, storage) =>
      { result := .error (.ofRepository error), after := { backends with storage } }

def find (call : StorageCall σ Registration) (backends : Backends σ π) : Answer σ π :=
  let (result, storage) := call backends.storage
  { result := result.mapError .ofRepository, after := { backends with storage } }

def refuse (error : RegistrationError) (backends : Backends σ π) : Answer σ π :=
  { result := .error (.registration error), after := backends }

/-- Goes on with the address, if there is one in the text. -/
def withAddress (email : String) (next : Email → Backends σ π → Answer σ π)
    (backends : Backends σ π) : Answer σ π :=
  match Email.parse email with
  | .ok email => next email backends
  | .error cause => refuse (.invalidEmail cause) backends

/-- Performs a command on the latest registration for an address. -/
def execute (service : Service σ π) (moment : Moment) (email : String) (command : Command) :
    Backends σ π → Answer σ π :=
  withAddress email fun email =>
    service.keep <| service.repository.mutateByEmail email <| .ofOperation
      { command, policy := service.policy, occasion := moment.occasion }

def perform (service : Service σ π) (moment : Moment) (backends : Backends σ π) :
    Call → Answer σ π
  | .start email =>
      match Registration.issue service.policy moment.occasion moment.registrationId email with
      | .error error => refuse error backends
      | .ok registration => service.keep (service.repository.save registration) backends
  | .verify email candidate => service.execute moment email (.verify candidate) backends
  | .check email candidate => service.execute moment email (.check candidate) backends
  | .resend email => service.execute moment email .resend backends
  | .complete email candidate account password =>
      match password.hash service.derive service.policy.hashing moment.salt with
      | .error error => refuse error backends
      | .ok hash => service.execute moment email (.complete candidate account hash) backends
  | .findByEmail email =>
      withAddress email (fun email => find (service.repository.findByEmail email)) backends
  | .findById id => find (service.repository.findById id) backends

end Service

end Enrolment
