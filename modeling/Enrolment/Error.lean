/-
Why a registration refuses an operation, how such a refusal is classified, and
which refusals come with a change of state that has to be kept.
-/

import Enrolment.Email
import Enrolment.Profile
import Enrolment.Status
import Enrolment.Time.Timestamp

namespace Enrolment

open Time

inductive RegistrationError where
  | invalidEmail (cause : EmailError)
  | invalidProfile (cause : ProfileError)
  | emptyField (field : String)
  | invalidStatus (operation : String) (actual : Status)
  | verifyFirst
  | registrationCompleted
  | codeExpired (expiredAt : Instant)
  | codeMismatch (attemptsRemaining : UInt8)
  | tooManyAttempts (maxAttempts : UInt8)
  | invalidCode
  | resendThrottled (retryAfter : Duration)
  | codeGeneration (reason : String)
  | passwordHashing (reason : String)
  | timestampOverflow (field : String)
  deriving DecidableEq

inductive ErrorKind where
  | validation
  | throttle
  | expiry
  | rateLimit
  | persistentMismatch
  | statusConflict
  | internal
  deriving DecidableEq

/-- The name used in reports. -/
def ErrorKind.title : ErrorKind → String
  | .validation => "Validation"
  | .throttle => "Throttle"
  | .expiry => "Expiry"
  | .rateLimit => "RateLimit"
  | .persistentMismatch => "PersistentMismatch"
  | .statusConflict => "StatusConflict"
  | .internal => "Internal"

namespace RegistrationError

/-- The name of the cause in reports. -/
def title : RegistrationError → String
  | .invalidEmail _ => "InvalidEmail"
  | .invalidProfile _ => "InvalidProfile"
  | .emptyField _ => "EmptyField"
  | .invalidStatus _ _ => "InvalidStatus"
  | .verifyFirst => "VerifyFirst"
  | .registrationCompleted => "RegistrationCompleted"
  | .codeExpired _ => "CodeExpired"
  | .codeMismatch _ => "CodeMismatch"
  | .tooManyAttempts _ => "TooManyAttempts"
  | .invalidCode => "InvalidCode"
  | .resendThrottled _ => "ResendThrottled"
  | .codeGeneration _ => "CodeGeneration"
  | .passwordHashing _ => "PasswordHashing"
  | .timestampOverflow _ => "TimestampOverflow"

def message : RegistrationError → String
  | .invalidEmail cause => s!"Invalid email: {cause.message}"
  | .invalidProfile cause => s!"Invalid profile: {cause.message}"
  | .emptyField field => s!"Field {field} must not be empty"
  | .invalidStatus operation actual =>
      s!"Cannot {operation} a registration in {actual.title} status"
  | .verifyFirst => "Email must be verified first"
  | .registrationCompleted => "Registration already completed"
  | .codeExpired expiredAt => s!"Verification code expired at {expiredAt.display}"
  | .codeMismatch attemptsRemaining =>
      s!"Verification code does not match, {attemptsRemaining} attempts remaining"
  | .tooManyAttempts maxAttempts => s!"Too many verification attempts (max {maxAttempts})"
  | .invalidCode => "Invalid verification code"
  | .resendThrottled retryAfter =>
      s!"Verification code was sent recently, retry in {retryAfter.wholeSeconds} seconds"
  | .codeGeneration reason => s!"Failed to generate verification code: {reason}"
  | .passwordHashing reason => s!"Failed to hash password: {reason}"
  | .timestampOverflow field => s!"Timestamp out of range: {field}"

def kind : RegistrationError → ErrorKind
  | .invalidEmail _ | .invalidProfile _ | .emptyField _ | .invalidCode => .validation
  | .resendThrottled _ => .throttle
  | .codeExpired _ => .expiry
  | .tooManyAttempts _ => .rateLimit
  | .codeMismatch _ => .persistentMismatch
  | .invalidStatus _ _ | .verifyFirst | .registrationCompleted => .statusConflict
  | .codeGeneration _ | .passwordHashing _ | .timestampOverflow _ => .internal

/-- Whether the change that came with the refusal has to be kept: a counted
attempt or a detected expiry is real although the operation failed. -/
def isPersistent (error : RegistrationError) : Bool :=
  match error.kind with
  | .expiry | .rateLimit | .persistentMismatch => true
  | .validation | .throttle | .statusConflict | .internal => false

end RegistrationError

end Enrolment
