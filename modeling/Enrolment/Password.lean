/-
Passwords and their hashes. A hash is kept as a password hash string, which
carries the parameters it was made with, so that it can be checked after the
settings have changed. Hashing and checking take the derivation as an argument.
-/

import Enrolment.Error
import Enrolment.Password.Argon2
import Enrolment.Password.Phc

namespace Enrolment

open Text

/-! ### Cost -/

/-- What a hash costs: memory in blocks of 1024 bytes, passes over it, and lanes. -/
structure HashingCost where
  memory : UInt32
  iterations : UInt32
  parallelism : UInt32
  deriving DecidableEq

inductive CostError where
  | memoryTooSmall
  | timeTooSmall
  | notEnoughThreads
  | tooManyThreads
  deriving DecidableEq

def CostError.message : CostError → String
  | .memoryTooSmall => "memory cost is too small"
  | .timeTooSmall => "time cost is too small"
  | .notEnoughThreads => "not enough threads"
  | .tooManyThreads => "too many threads"

namespace HashingCost

def maxParallelism : Nat := 16777215

/-- The blocks that the lanes need, eight for each, in a word of 32 bits. Where
that is too small a word, there are too many lanes. -/
def leastMemory (cost : HashingCost) : UInt32 :=
  8 * cost.parallelism

/-- Every lane has its blocks, and there is at least one of everything. -/
def check (cost : HashingCost) : Except CostError Unit :=
  if cost.memory < 8 ∨ cost.memory < cost.leastMemory then .error .memoryTooSmall
  else if cost.iterations.toNat < 1 then .error .timeTooSmall
  else if cost.parallelism.toNat < 1 then .error .notEnoughThreads
  else if maxParallelism < cost.parallelism.toNat then .error .tooManyThreads
  else .ok ()

end HashingCost

/-! ### Hashes -/

/-- How bytes are derived from a password. -/
abbrev Derivation := Argon2.Request → List UInt8

structure PasswordHash where
  phc : String
  deriving DecidableEq

/-- A password, which is never empty. -/
structure Password where
  text : String
  nonEmpty : text ≠ ""

namespace Password

def of (text : String) : Except RegistrationError Password :=
  if nonEmpty : text ≠ "" then .ok ⟨text, nonEmpty⟩ else .error (.emptyField "password")

def bytes (password : Password) : List UInt8 :=
  password.text.toUTF8.toList

abbrev Salt := Vector UInt8 16

def hashLength : Nat := 32

def request (password : Password) (cost : HashingCost) (salt : Salt) : Argon2.Request :=
  { variant := .id
    version := .v19
    memory := cost.memory.toNat
    iterations := cost.iterations.toNat
    lanes := cost.parallelism.toNat
    associatedData := []
    length := hashLength
    salt := salt.toList
    password := password.bytes }

/-- The hash of a password under a cost that passes the check. -/
def hash (derive : Derivation) (cost : HashingCost) (salt : Salt) (password : Password) :
    Except RegistrationError PasswordHash :=
  match cost.check with
  | .error error => .error (.passwordHashing error.message)
  | .ok () =>
      let phc : Phc :=
        { algorithm := "argon2id".toList
          version := some Argon2.Version.v19.number
          parameters :=
            [(['m'], decimal cost.memory.toNat), (['t'], decimal cost.iterations.toNat),
              (['p'], decimal cost.parallelism.toNat)]
          salt := some (Base64.encode salt.toList)
          hash := some (derive (password.request cost salt)) }
      .ok { phc := String.ofList phc.text }

end Password

namespace PasswordHash

/-! ### Checking -/

/-- Parameters as far as they are read, with defaults for those not given. -/
structure Parameters where
  cost : HashingCost
  associatedData : List UInt8

def defaultParameters : Parameters :=
  { cost := { memory := 19456, iterations := 2, parallelism := 1 }, associatedData := [] }

def word? (value : List Char) : Option UInt32 :=
  (Phc.number? value).map UInt32.ofNat

def bytesUpTo? (limit : Nat) (value : List Char) : Option (List UInt8) := do
  let bytes ← Base64.decode value
  if bytes.length ≤ limit then some bytes else none

/-- Takes one parameter in. The last of two with one name wins. -/
def Parameters.set? (parameters : Parameters) :
    List Char × List Char → Option Parameters
  | (['m'], value) => do
      some { parameters with cost.memory := ← word? value }
  | (['t'], value) => do
      some { parameters with cost.iterations := ← word? value }
  | (['p'], value) => do
      some { parameters with cost.parallelism := ← word? value }
  | (name, value) =>
      if name = "keyid".toList then (bytesUpTo? 8 value).map fun _ => parameters
      else if name = "data".toList then do
        some { parameters with associatedData := ← bytesUpTo? 32 value }
      else none

def variant? (algorithm : List Char) : Option Argon2.Variant :=
  if algorithm = "argon2d".toList then some .d
  else if algorithm = "argon2i".toList then some .i
  else if algorithm = "argon2id".toList then some .id
  else none

def version? : Option Nat → Option Argon2.Version
  | none => some .v19
  | some 16 => some .v16
  | some 19 => some .v19
  | some _ => none

def shortestSalt : Nat := 8

/-- How the candidate has to be hashed to be compared with a stored hash. -/
def request? (phc : Phc) (salt : List Char) (expected : List UInt8) (candidate : Password) :
    Option Argon2.Request := do
  let parameters ← phc.parameters.foldlM Parameters.set? defaultParameters
  let variant ← variant? phc.algorithm
  let version ← version? phc.version
  let salt ← Base64.decode salt
  if parameters.cost.check.isOk ∧ shortestSalt ≤ salt.length then
    some
      { variant, version
        memory := parameters.cost.memory.toNat
        iterations := parameters.cost.iterations.toNat
        lanes := parameters.cost.parallelism.toNat
        associatedData := parameters.associatedData
        length := expected.length
        salt
        password := candidate.bytes }
  else none

/-- Whether a candidate is the password. A string without salt or hash fits no
password; one that cannot be understood is an error. -/
def verify (derive : Derivation) (hash : PasswordHash) (candidate : Password) :
    Except RegistrationError Bool :=
  match Phc.parse hash.phc.toList with
  | none => .error (.passwordHashing "malformed password hash string")
  | some phc =>
      match phc.salt, phc.hash with
      | some salt, some expected =>
          match request? phc salt expected candidate with
          | none => .error (.passwordHashing "unusable password hash parameters")
          | some request => .ok (derive request == expected)
      | _, _ => .ok false

end PasswordHash

end Enrolment
