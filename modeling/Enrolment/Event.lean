/-
What is told about a registration. Every event has the same envelope: which
registration it is about, when it happened, and which request and which earlier
event brought it about. The body says what happened.
-/

import Enrolment.Code
import Enrolment.Password

namespace Enrolment

open Time

inductive FailureReason where
  | tooManyAttempts
  deriving DecidableEq

inductive EventBody where
  /-- A registration was issued; the code is to be delivered. -/
  | started (code : Code)
  /-- The registrant showed that the mailbox is theirs. -/
  | emailVerified
  /-- A new code, to be delivered, replaced the one before. -/
  | codeResent (code : Code)
  /-- The registration cannot be verified any more without a new code. -/
  | failed (reason : FailureReason)
  | completed (account : Account) (passwordHash : PasswordHash)
  deriving DecidableEq

structure Event where
  version : UInt32
  id : Uuid
  registrationId : RegistrationId
  timestamp : Instant
  correlationId : Uuid
  /-- The event that brought this one about, in the same unit of work. -/
  causationId : Option Uuid
  email : Email
  body : EventBody
  deriving DecidableEq

/-! ### Kinds -/

inductive EventKind where
  | started
  | emailVerified
  | codeResent
  | failed
  | studentCompleted
  | staffCompleted
  deriving DecidableEq

namespace EventKind

def all : List EventKind :=
  [.started, .emailVerified, .codeResent, .failed, .studentCompleted, .staffCompleted]

def title : EventKind → String
  | .started => "RegistrationStarted"
  | .emailVerified => "EmailVerified"
  | .codeResent => "VerificationCodeResent"
  | .failed => "RegistrationFailed"
  | .studentCompleted => "StudentRegistrationCompleted"
  | .staffCompleted => "StaffRegistrationCompleted"

def isCompletion : EventKind → Bool
  | .studentCompleted | .staffCompleted => true
  | .started | .emailVerified | .codeResent | .failed => false

end EventKind

def EventBody.kind : EventBody → EventKind
  | .started _ => .started
  | .emailVerified => .emailVerified
  | .codeResent _ => .codeResent
  | .failed _ => .failed
  | .completed (.student _) _ => .studentCompleted
  | .completed (.staff _) _ => .staffCompleted

/-- The code that an event asks to deliver. -/
def EventBody.code? : EventBody → Option Code
  | .started code | .codeResent code => some code
  | .emailVerified | .failed _ | .completed _ _ => none

namespace Event

def currentVersion : UInt32 := 1

def kind (event : Event) : EventKind :=
  event.body.kind

end Event

/-! ### Recorder -/

/-- Events recorded but not yet committed, oldest first. -/
structure Recorder where
  events : List Event
  deriving DecidableEq

namespace Recorder

def empty : Recorder := { events := [] }

def record (recorder : Recorder) (event : Event) : Recorder :=
  { events := recorder.events ++ [event] }

def last? (recorder : Recorder) : Option Event :=
  recorder.events.getLast?

def size (recorder : Recorder) : Nat :=
  recorder.events.length

def drain (recorder : Recorder) : List Event × Recorder :=
  (recorder.events, empty)

end Recorder

end Enrolment
