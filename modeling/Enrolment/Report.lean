/-
Reports of failures as JSON: the name of the cause, its message, and what a caller
needs to act on it. Each report is a list of members, so that more can be added.
-/

import Enrolment.Policy.Wire
import Enrolment.Service

namespace Enrolment

open Json

/-- What every report holds. -/
def reportMembers (title message : String) : List (String × Json) :=
  [("error", .string title), ("message", .string message)]

def EmailError.report (error : EmailError) : List (String × Json) :=
  reportMembers error.title error.message

def ProfileError.report (error : ProfileError) : List (String × Json) :=
  reportMembers error.title error.message

def PolicyError.report (error : PolicyError) : List (String × Json) :=
  reportMembers error.title error.message

def MessagingError.report (error : MessagingError) : List (String × Json) :=
  reportMembers error.title error.message

def Lifecycle.Refusal.report (refusal : Refusal) : List (String × Json) :=
  reportMembers refusal.title refusal.message

namespace RegistrationError

/-- What only some causes carry. -/
def details : RegistrationError → List (String × Json)
  | .invalidEmail cause => [("cause", .string cause.title)]
  | .invalidProfile cause => [("cause", .string cause.title)]
  | .codeExpired expiredAt => [("expired_at", ofInstant expiredAt)]
  | .codeMismatch attemptsRemaining =>
      [("attempts_remaining", ofNat attemptsRemaining.toNat)]
  | .resendThrottled retryAfter => [("retry_after", retryAfter.toJson)]
  | _ => []

def report (error : RegistrationError) : List (String × Json) :=
  reportMembers error.title error.message ++
    [("kind", .string error.kind.title), ("persistent", .bool error.isPersistent)] ++
    error.details

def toJson (error : RegistrationError) : Json :=
  .object error.report

end RegistrationError

namespace RepositoryError

def details : RepositoryError → List (String × Json)
  | .rejected error => [("inner", error.toJson)]
  | _ => []

def report (error : RepositoryError) : List (String × Json) :=
  reportMembers error.title error.message ++ error.details

end RepositoryError

namespace ServiceError

def details : ServiceError → List (String × Json)
  | .repository error => [("inner", .object error.report)]
  | .registration _ | .messaging _ => []

def report (error : ServiceError) : List (String × Json) :=
  reportMembers error.title error.message ++
    [("is_not_found", .bool error.isNotFound),
      ("registration_error", ofOption RegistrationError.toJson error.registrationError?)] ++
    error.details

end ServiceError

end Enrolment
