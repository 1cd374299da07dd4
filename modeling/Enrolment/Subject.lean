/-
Subjects under which events are delivered: the root, the kind of event and the
registration, between dots. A part that is left open is a wildcard.
-/

import Enrolment.Event

namespace Enrolment

/-- The part of a subject that stands for a kind of event. -/
def EventKind.token : EventKind → String
  | .started => "started"
  | .emailVerified => "email_verified"
  | .codeResent => "code_resent"
  | .failed => "failed"
  | .studentCompleted => "student_completed"
  | .staffCompleted => "staff_completed"

def EventKind.ofToken? (token : String) : Option EventKind :=
  all.find? fun kind => kind.token = token

structure Subject where
  root : String
  kind : Option EventKind
  registration : Option RegistrationId
  deriving DecidableEq

namespace Subject

def defaultRoot : String := "registration"

def anyToken : String := "*"

def text (subject : Subject) : String :=
  let kind := (subject.kind.map EventKind.token).getD anyToken
  let registration := (subject.registration.map RegistrationId.text).getD anyToken
  s!"{subject.root}.{kind}.{registration}"

/-- The subject of everything under the root. -/
def everything (root : String) : String :=
  s!"{root}.>"

/-- What an event is delivered under. -/
def ofEvent (root : String) (event : Event) : Subject :=
  { root, kind := some event.kind, registration := some event.registrationId }

end Subject

end Enrolment
