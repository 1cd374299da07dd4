/-
Who an account belongs to: the identity fields that a completed registration
carries, and the rules that their text has to meet.
-/

import Enrolment.Text.Blank
import Enrolment.Uuid

namespace Enrolment

open Text

inductive ProfileError where
  | emptyField (field : String)
  | tooLong (field : String) (limit : Nat)
  deriving DecidableEq

def ProfileError.title : ProfileError → String
  | .emptyField _ => "EmptyField"
  | .tooLong _ _ => "TooLong"

def ProfileError.message : ProfileError → String
  | .emptyField field => s!"Field {field} must not be empty"
  | .tooLong field limit => s!"Field {field} exceeds maximum length of {limit} characters"

namespace Profile

def maxNameLength : Nat := 100

/-- A text freed of surrounding blanks, which must leave something but not more
than the limit. -/
def required (field text : String) : Except ProfileError String :=
  let characters := strip text.toList
  if characters = [] then .error (.emptyField field)
  else if maxNameLength < characters.length then .error (.tooLong field maxNameLength)
  else .ok (String.ofList characters)

/-- As `required`, but a text of blanks counts as none given. -/
def optional (field : String) (text : Option String) : Except ProfileError (Option String) :=
  match text with
  | none => .ok none
  | some text =>
      if strip text.toList = [] then .ok none
      else (required field text).map some

end Profile

open Profile

structure StudentProfile where
  barcode : String
  firstName : String
  lastName : String
  middleName : Option String
  groupId : Uuid
  deriving DecidableEq

namespace StudentProfile

/-- The profile with every text field trimmed, if all of them pass. -/
def normalize (profile : StudentProfile) : Except ProfileError StudentProfile := do
  let barcode ← required "barcode" profile.barcode
  let firstName ← required "first_name" profile.firstName
  let lastName ← required "last_name" profile.lastName
  let middleName ← optional "middle_name" profile.middleName
  return { barcode, firstName, lastName, middleName, groupId := profile.groupId }

/-- Whether all text fields pass, the first that does not otherwise. -/
def validate (profile : StudentProfile) : Except ProfileError Unit := do
  let _ ← required "barcode" profile.barcode
  let _ ← required "first_name" profile.firstName
  let _ ← required "last_name" profile.lastName
  let _ ← optional "middle_name" profile.middleName
  return ()

end StudentProfile

structure StaffProfile where
  firstName : String
  lastName : String
  middleName : Option String
  position : String
  deriving DecidableEq

namespace StaffProfile

def normalize (profile : StaffProfile) : Except ProfileError StaffProfile := do
  let firstName ← required "first_name" profile.firstName
  let lastName ← required "last_name" profile.lastName
  let middleName ← optional "middle_name" profile.middleName
  let position ← required "position" profile.position
  return { firstName, lastName, middleName, position }

def validate (profile : StaffProfile) : Except ProfileError Unit := do
  let _ ← required "first_name" profile.firstName
  let _ ← required "last_name" profile.lastName
  let _ ← optional "middle_name" profile.middleName
  let _ ← required "position" profile.position
  return ()

end StaffProfile

/-- The account that a completed registration creates, by whose it is. -/
inductive Account where
  | student (profile : StudentProfile)
  | staff (profile : StaffProfile)
  deriving DecidableEq

def Account.validate : Account → Except ProfileError Unit
  | .student profile => profile.validate
  | .staff profile => profile.validate

end Enrolment
