/-
Policies as JSON, one member for each setting. A span is written as whole seconds
and the nanoseconds beyond them, and read from that or from seconds alone.
-/

import Enrolment.Json.Record
import Enrolment.Policy

namespace Enrolment

open Json Time

namespace Time.Duration

def toJson (duration : Duration) : Json :=
  .object
    [("secs", ofInt duration.wholeSeconds), ("nanos", ofInt duration.subsecondNanos)]

def ofJson? : Json → Option Duration
  | .object members => do
      let seconds ← (← member? "secs" members).integer?
      let nanos ← optional (below? nanosPerSecond) (member? "nanos" members)
      ofNanos? (seconds * nanosPerSecond + nanos.getD 0)
  | json => do ofSeconds? (← json.integer?)

end Time.Duration

namespace Policy

def toJson (policy : Policy) : Json :=
  .object
    [("code_length", ofNat policy.codeLength), ("code_ttl", policy.codeLifetime.toJson),
      ("resend_cooldown", policy.resendCooldown.toJson),
      ("max_code_attempts", ofNat policy.maxAttempts.toNat),
      ("memory_kib", ofNat policy.hashing.memory.toNat),
      ("iterations", ofNat policy.hashing.iterations.toNat),
      ("parallelism", ofNat policy.hashing.parallelism.toNat)]

def wordOfJson? (json : Json) : Option UInt32 :=
  (json.below? (Nat.pow 2 32)).map UInt32.ofNat

/-- The value of a member that may be missing, or null, for the default. -/
def memberOr {α : Type} (members : List (String × Json)) (name : String) (default : α)
    (read : Json → Option α) : Option α :=
  (optional read (member? name members)).map fun value => value.getD default

/-- The policy with the given settings, and defaults for those not given. -/
def ofJson? : Json → Option Policy
  | .object members => do
      some
        { codeLength := ← memberOr members "code_length" defaults.codeLength (below? (Nat.pow 2 64))
          codeLifetime := ← memberOr members "code_ttl" defaults.codeLifetime Duration.ofJson?
          resendCooldown := ←
            memberOr members "resend_cooldown" defaults.resendCooldown Duration.ofJson?
          maxAttempts := ← memberOr members "max_code_attempts" defaults.maxAttempts
            fun json => (json.below? (Nat.pow 2 8)).map UInt8.ofNat
          hashing :=
            { memory := ← memberOr members "memory_kib" defaults.hashing.memory wordOfJson?
              iterations := ←
                memberOr members "iterations" defaults.hashing.iterations wordOfJson?
              parallelism := ←
                memberOr members "parallelism" defaults.hashing.parallelism wordOfJson? } }
  | _ => none

end Policy

end Enrolment
