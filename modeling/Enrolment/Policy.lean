/-
The policy that registrations are run under, its defaults, the check that its
values are usable, and how it is read from environment variables.
-/

import Enrolment.Password
import Enrolment.Text.Quoted

namespace Enrolment

open Text Time

structure Policy where
  /-- Characters in a verification code. -/
  codeLength : Nat
  /-- How long a code can be used. -/
  codeLifetime : Duration
  /-- How long a new code has to be waited for. -/
  resendCooldown : Duration
  /-- The number of wrong answers at which a registration expires. -/
  maxAttempts : UInt8
  hashing : HashingCost
  deriving DecidableEq

inductive PolicyError where
  | invalidValue (name value : String)
  | notPositive (name : String)
  | tooLarge (name : String) (maxSeconds : Int)
  | passwordHashing (reason : String)
  deriving DecidableEq

def PolicyError.title : PolicyError → String
  | .invalidValue _ _ => "InvalidValue"
  | .notPositive _ => "NotPositive"
  | .tooLarge _ _ => "TooLarge"
  | .passwordHashing _ => "PasswordHashing"

def PolicyError.message : PolicyError → String
  | .invalidValue name value => s!"Environment variable {name} has invalid value {quote value}"
  | .notPositive name => s!"Configuration value {name} must be positive"
  | .tooLarge name maxSeconds => s!"Configuration value {name} exceeds {maxSeconds} seconds"
  | .passwordHashing reason => s!"Invalid password hashing parameters: {reason}"

namespace Policy

def defaults : Policy :=
  { codeLength := 6
    codeLifetime := Duration.seconds 600
    resendCooldown := Duration.seconds 60
    maxAttempts := 3
    hashing := { memory := 15000, iterations := 2, parallelism := 1 } }

/-! ### Check -/

/-- The longest span that a timer may be set to, in seconds: a day. -/
def maxSeconds : Nat := 86400

def longestTimer : Duration := Duration.seconds maxSeconds

/-- All values positive, the timers at most a day, and the hashing cost usable. -/
def validate (policy : Policy) : Except PolicyError Unit :=
  if policy.codeLength = 0 then .error (.notPositive "code_length")
  else if policy.codeLifetime ≤ Duration.zero then .error (.notPositive "code_ttl")
  else if policy.resendCooldown ≤ Duration.zero then .error (.notPositive "resend_cooldown")
  else if longestTimer < policy.codeLifetime then .error (.tooLarge "code_ttl" maxSeconds)
  else if longestTimer < policy.resendCooldown then
    .error (.tooLarge "resend_cooldown" maxSeconds)
  else if policy.maxAttempts = 0 then .error (.notPositive "max_code_attempts")
  else
    match policy.hashing.check with
    | .error error => .error (.passwordHashing error.message)
    | .ok () => .ok ()

end Policy

/-! ### Environment -/

/-- The bytes that each variable is set to, if it is set. -/
abbrev Environment := String → Option ByteArray

namespace Environment

/-- The text of a variable. One that is not UTF-8 counts as not set. -/
def text? (environment : Environment) (name : String) : Option String :=
  (environment name).bind String.fromUTF8?

/-- A variable's value, read with blanks around it dropped, or the default. -/
def setting {α : Type} (environment : Environment) (name : String) (default : α)
    (read : List Char → Option α) : Except PolicyError α :=
  match environment.text? name with
  | none => .ok default
  | some value =>
      match read (strip value.toList) with
      | some setting => .ok setting
      | none => .error (.invalidValue name value)

end Environment

namespace Policy

/-- A natural number below the limit. -/
def readBelow (limit : Nat) (text : List Char) : Option Nat := do
  let value ← readInteger false text
  if value < limit then some value.toNat else none

def readWord (text : List Char) : Option UInt32 :=
  (readBelow (Nat.pow 2 32) text).map UInt32.ofNat

def readSeconds (text : List Char) : Option Duration := do
  Duration.ofSeconds? (← readInteger true text)

/-- The policy of an environment, with defaults for what is not set. -/
def load (environment : Environment) : Except PolicyError Policy := do
  let codeLength ← environment.setting "REGISTRATION_CODE_LENGTH" defaults.codeLength
    (readBelow (Nat.pow 2 64))
  let codeLifetime ← environment.setting "REGISTRATION_CODE_TTL_SECS" defaults.codeLifetime
    readSeconds
  let resendCooldown ← environment.setting "REGISTRATION_RESEND_COOLDOWN_SECS"
    defaults.resendCooldown readSeconds
  let maxAttempts ← environment.setting "REGISTRATION_MAX_CODE_ATTEMPTS" defaults.maxAttempts
    fun text => (readBelow (Nat.pow 2 8) text).map UInt8.ofNat
  let memory ← environment.setting "REGISTRATION_ARGON2_MEMORY_KIB" defaults.hashing.memory
    readWord
  let iterations ← environment.setting "REGISTRATION_ARGON2_ITERATIONS"
    defaults.hashing.iterations readWord
  let parallelism ← environment.setting "REGISTRATION_ARGON2_PARALLELISM"
    defaults.hashing.parallelism readWord
  let policy : Policy :=
    { codeLength, codeLifetime, resendCooldown, maxAttempts
      hashing := { memory, iterations, parallelism } }
  policy.validate
  return policy

end Policy

end Enrolment
