/-
The stored state of a registration as JSON.
-/

import Enrolment.Json.Printer
import Enrolment.Json.Reader
import Enrolment.Json.Record
import Enrolment.Registration

namespace Enrolment

open Json

namespace Status

def toJson (status : Status) : Json :=
  .string status.word

def ofJson? (json : Json) : Option Status := do
  ofWord? (← json.choice? isNull)

end Status

namespace Snapshot

def fieldNames : List String :=
  ["id", "email", "status", "verification_code", "code_attempts", "code_expires_at",
    "resend_timeout", "created_at", "updated_at"]

def members (snapshot : Snapshot) : List (String × Json) :=
  [("id", ofUuid snapshot.id.uuid), ("email", .string snapshot.email.address),
    ("status", snapshot.status.toJson), ("verification_code", .string snapshot.code.text),
    ("code_attempts", ofNat snapshot.attempts.toNat),
    ("code_expires_at", ofInstant snapshot.codeExpiresAt),
    ("resend_timeout", ofInstant snapshot.resendTimeout),
    ("created_at", ofInstant snapshot.createdAt),
    ("updated_at", ofInstant snapshot.updatedAt)]

def toJson (snapshot : Snapshot) : Json :=
  .object snapshot.members

def ofJson? (json : Json) : Option Snapshot := do
  match ← json.fields? fieldNames with
  | [id, email, status, code, attempts, codeExpiresAt, resendTimeout, createdAt, updatedAt] =>
      some
        { id := ← required registrationId? id
          email := { address := ← required text? email }
          status := ← required Status.ofJson? status
          code := { text := ← required text? code }
          attempts := UInt8.ofNat (← required (below? (Nat.pow 2 8)) attempts)
          codeExpiresAt := ← required instant? codeExpiresAt
          resendTimeout := ← required instant? resendTimeout
          createdAt := ← required instant? createdAt
          updatedAt := ← required instant? updatedAt }
  | _ => none

def wire (snapshot : Snapshot) : String :=
  snapshot.toJson.render

def ofWire? (text : String) : Option Snapshot := do
  ofJson? (← readRecord? fieldNames text.toList)

end Snapshot

end Enrolment
