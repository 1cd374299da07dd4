/-
Events as JSON: one object whose first member says the kind, then the envelope,
then what the body adds. A reader takes the members in any order.
-/

import Enrolment.Event
import Enrolment.Json.Printer
import Enrolment.Json.Reader
import Enrolment.Json.Record

namespace Enrolment

open Json

/-! ### Profiles -/

namespace StudentProfile

def fieldNames : List String :=
  ["barcode", "first_name", "last_name", "middle_name", "group_id"]

def toJson (profile : StudentProfile) : Json :=
  .object
    [("barcode", .string profile.barcode), ("first_name", .string profile.firstName),
      ("last_name", .string profile.lastName),
      ("middle_name", ofOption .string profile.middleName),
      ("group_id", ofUuid profile.groupId)]

def ofJson? (json : Json) : Option StudentProfile := do
  match ← json.fields? fieldNames with
  | [barcode, firstName, lastName, middleName, groupId] =>
      some
        { barcode := ← required text? barcode
          firstName := ← required text? firstName
          lastName := ← required text? lastName
          middleName := ← optional text? middleName
          groupId := ← required uuid? groupId }
  | _ => none

end StudentProfile

namespace StaffProfile

def fieldNames : List String :=
  ["first_name", "last_name", "middle_name", "position"]

def toJson (profile : StaffProfile) : Json :=
  .object
    [("first_name", .string profile.firstName), ("last_name", .string profile.lastName),
      ("middle_name", ofOption .string profile.middleName),
      ("position", .string profile.position)]

def ofJson? (json : Json) : Option StaffProfile := do
  match ← json.fields? fieldNames with
  | [firstName, lastName, middleName, position] =>
      some
        { firstName := ← required text? firstName
          lastName := ← required text? lastName
          middleName := ← optional text? middleName
          position := ← required text? position }
  | _ => none

end StaffProfile

def Account.toJson : Account → Json
  | .student profile => profile.toJson
  | .staff profile => profile.toJson

/-! ### Bodies -/

def FailureReason.word : FailureReason → String
  | .tooManyAttempts => "too_many_attempts"

def FailureReason.ofJson? (json : Json) : Option FailureReason := do
  if (← json.choice? isNullOrEmpty) = FailureReason.tooManyAttempts.word then
    some .tooManyAttempts
  else none

/-- The word for a kind of event in data. -/
def EventKind.word : EventKind → String
  | .started => "registration_started"
  | .emailVerified => "email_verified"
  | .codeResent => "verification_code_resent"
  | .failed => "registration_failed"
  | .studentCompleted => "student_registration_completed"
  | .staffCompleted => "staff_registration_completed"

def EventKind.ofWord? (word : String) : Option EventKind :=
  all.find? fun kind => kind.word = word

namespace EventBody

/-- The fields that a body of a kind adds to the envelope. -/
def fieldNames : EventKind → List String
  | .started | .codeResent => ["code"]
  | .emailVerified => []
  | .failed => ["reason"]
  | .studentCompleted | .staffCompleted => ["profile", "password_hash"]

def members : EventBody → List (String × Json)
  | .started code | .codeResent code => [("code", .string code.text)]
  | .emailVerified => []
  | .failed reason => [("reason", .string reason.word)]
  | .completed account hash =>
      [("profile", account.toJson), ("password_hash", .string hash.phc)]

def ofFields? : EventKind → List (Option Json) → Option EventBody
  | .started, [code] => do some (.started { text := ← required text? code })
  | .emailVerified, [] => some .emailVerified
  | .codeResent, [code] => do some (.codeResent { text := ← required text? code })
  | .failed, [reason] => do some (.failed (← required FailureReason.ofJson? reason))
  | .studentCompleted, [profile, hash] => do
      some (.completed (.student (← required StudentProfile.ofJson? profile))
        { phc := ← required text? hash })
  | .staffCompleted, [profile, hash] => do
      some (.completed (.staff (← required StaffProfile.ofJson? profile))
        { phc := ← required text? hash })
  | _, _ => none

end EventBody

/-! ### Events -/

namespace Event

def tagName : String := "type"

def envelopeNames : List String :=
  ["event_version", "event_id", "registration_id", "timestamp", "correlation_id",
    "causation_id", "email"]

/-- The members that every event has. -/
def envelope (event : Event) : List (String × Json) :=
  [("event_version", ofNat event.version.toNat), ("event_id", ofUuid event.id),
    ("registration_id", ofUuid event.registrationId.uuid),
    ("timestamp", ofInstant event.timestamp), ("correlation_id", ofUuid event.correlationId),
    ("causation_id", ofOption ofUuid event.causationId), ("email", .string event.email.address)]

def toJson (event : Event) : Json :=
  .object ((tagName, .string event.kind.word) :: event.envelope ++ event.body.members)

/-- The event of a kind whose fields a record holds. -/
def ofRecord? (kind : EventKind) (record : Json) : Option Event := do
  match ← record.fields? (envelopeNames ++ EventBody.fieldNames kind) with
  | version :: id :: registrationId :: timestamp :: correlationId :: causationId :: email ::
      body =>
      some
        { version := UInt32.ofNat (← required (below? (Nat.pow 2 32)) version)
          id := ← required uuid? id
          registrationId := ← required registrationId? registrationId
          timestamp := ← required instant? timestamp
          correlationId := ← required uuid? correlationId
          causationId := ← optional uuid? causationId
          email := { address := ← required text? email }
          body := ← EventBody.ofFields? kind body }
  | _ => none

/-- The kind stands in the tag of an object, or comes first in an array. -/
def ofJson? : Json → Option Event
  | .object members => do
      if members.countP (·.1 = tagName) ≤ 1 then
        let kind ← EventKind.ofWord? (← (← member? tagName members).text?)
        ofRecord? kind (.object (members.filter (·.1 ≠ tagName)))
      else none
  | .array (tag :: fields) => do
      ofRecord? (← EventKind.ofWord? (← tag.text?)) (.array fields)
  | _ => none

def wire (event : Event) : String :=
  event.toJson.render

def ofWire? (text : String) : Option Event := do
  ofJson? (← read? text.toList)

end Event

end Enrolment
