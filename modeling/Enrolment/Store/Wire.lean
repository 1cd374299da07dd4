/-
Committed events as JSON: the place in the log, the registration and the event.
-/

import Enrolment.Event.Wire
import Enrolment.Store

namespace Enrolment.StoredEvent

open Json

def fieldNames : List String :=
  ["sequence", "registration_id", "event"]

def toJson (stored : StoredEvent) : Json :=
  .object
    [("sequence", ofNat stored.sequence),
      ("registration_id", ofUuid stored.registrationId.uuid),
      ("event", stored.event.toJson)]

def ofJson? (json : Json) : Option StoredEvent := do
  match ← json.fields? fieldNames with
  | [sequence, registrationId, event] =>
      some
        { sequence := ← required (below? (Nat.pow 2 64)) sequence
          registrationId := ← required registrationId? registrationId
          event := ← required Event.ofJson? event }
  | _ => none

def wire (stored : StoredEvent) : String :=
  stored.toJson.render

def ofWire? (text : String) : Option StoredEvent := do
  ofJson? (← readRecord? fieldNames text.toList)

end Enrolment.StoredEvent
