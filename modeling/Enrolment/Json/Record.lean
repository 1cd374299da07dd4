/-
Records in JSON. A record is an object with its fields as members in any order,
members that are no field left aside, or an array of all the fields in their
order. A field that is given twice spoils the record.
-/

import Enrolment.Json.Basic
import Enrolment.Time.Timestamp
import Enrolment.Uuid

namespace Enrolment.Json

/-! ### Fields -/

def member? (name : String) (members : List (String × Json)) : Option Json :=
  (members.find? fun member => member.1 = name).map Prod.snd

/-- The members with a name occur at most once. -/
def givenOnce (members : List (String × Json)) (name : String) : Bool :=
  (members.filter fun member => member.1 = name).length ≤ 1

/-- The values of the named fields in the order of the names, as far as given. -/
def fields? (names : List String) : Json → Option (List (Option Json))
  | .object members =>
      if names.all (givenOnce members) then
        some (names.map fun name => member? name members)
      else none
  | .array elements =>
      if elements.length = names.length then some (elements.map some) else none
  | _ => none

def required {α : Type} (read : Json → Option α) (field : Option Json) : Option α :=
  field.bind read

/-- A field that may be missing, or null. -/
def optional {α : Type} (read : Json → Option α) : Option Json → Option (Option α)
  | none | some .null => some none
  | some value => (read value).map some

/-- The word of a choice without contents: a string, or an object whose only
member has that name and nothing as its value. -/
def choice? (isNothing : Json → Bool) : Json → Option String
  | .string word => some word
  | .object [(word, value)] => if isNothing value then some word else none
  | _ => none

def isNull : Json → Bool
  | .null => true
  | _ => false

def isNullOrEmpty : Json → Bool
  | .null | .object [] => true
  | _ => false

/-! ### Values of fields -/

def uuid? (json : Json) : Option Uuid := do
  Uuid.ofString? (← json.text?)

def registrationId? (json : Json) : Option RegistrationId :=
  json.uuid?.map RegistrationId.mk

def instant? (json : Json) : Option Time.Instant := do
  Time.Instant.read? (← json.text?).toList

def ofUuid (uuid : Uuid) : Json := .string uuid.text

def ofInstant (instant : Time.Instant) : Json :=
  .string (String.ofList instant.timestamp)

def ofOption {α : Type} (write : α → Json) : Option α → Json
  | none => .null
  | some value => write value

end Enrolment.Json
