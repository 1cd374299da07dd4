/-
Delivery of committed events to those who act on them, such as mailers. What is
delivered has been kept before; a failure to deliver takes nothing back.
-/

import Enrolment.Subject

namespace Enrolment

inductive MessagingError where
  | connection (reason : String)
  | publish (reason : String)
  | subscribe (reason : String)
  | serialization (reason : String)
  | deserialization (reason : String)
  deriving DecidableEq

def MessagingError.title : MessagingError → String
  | .connection _ => "NatsConnection"
  | .publish _ => "NatsPublish"
  | .subscribe _ => "NatsSubscribe"
  | .serialization _ => "Serialization"
  | .deserialization _ => "Deserialization"

def MessagingError.message : MessagingError → String
  | .connection reason => s!"NATS connection error: {reason}"
  | .publish reason => s!"NATS publish error: {reason}"
  | .subscribe reason => s!"NATS subscribe error: {reason}"
  | .serialization reason => s!"Serialization error: {reason}"
  | .deserialization reason => s!"Deserialization error: {reason}"

/-- Delivers events, oldest first, over a channel in a state of type `π`. -/
structure Publisher (π : Type) where
  publish : List Event → π → Except MessagingError Unit × π

/-! ### In memory -/

structure Delivery where
  subject : Subject
  event : Event
  deriving DecidableEq

/-- Everything delivered so far, oldest first. -/
structure Outbox where
  deliveries : List Delivery
  deriving DecidableEq

namespace Outbox

def empty : Outbox := { deliveries := [] }

def delivery (event : Event) : Delivery :=
  { subject := .ofEvent Subject.defaultRoot event, event }

def push (outbox : Outbox) (events : List Event) : Outbox :=
  { deliveries := outbox.deliveries ++ events.map delivery }

def events (outbox : Outbox) : List Event :=
  outbox.deliveries.map Delivery.event

def subjects (outbox : Outbox) : List Subject :=
  outbox.deliveries.map Delivery.subject

def publisher : Publisher Outbox :=
  { publish := fun events outbox => (.ok (), outbox.push events) }

end Outbox

end Enrolment
