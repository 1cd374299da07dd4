/-
Where a registration stands, and the lifecycle machine that moves it: which
inputs each status takes and where they lead.
-/

namespace Enrolment

inductive Status where
  /-- A code is out and waits for its answer. -/
  | pending
  /-- The code timed out or was guessed at too often. -/
  | expired
  /-- The registrant showed that the mailbox is theirs. -/
  | verified
  | completed
  deriving DecidableEq

namespace Status

def all : List Status := [.pending, .expired, .verified, .completed]

def word : Status → String
  | .pending => "pending"
  | .expired => "expired"
  | .verified => "verified"
  | .completed => "completed"

def ofWord? (word : String) : Option Status :=
  all.find? fun status => status.word = word

/-- The name used in messages about a refused operation. -/
def title : Status → String
  | .pending => "Pending"
  | .expired => "Expired"
  | .verified => "Verified"
  | .completed => "Completed"

instance : ToString Status := ⟨word⟩

/-- Staying put is always allowed; beyond that a pending registration is
verified or expires, a resend leads back to pending, and only a verified one
is completed. -/
def canBecome : Status → Status → Bool
  | .pending, .verified | .pending, .expired => true
  | .expired, .pending => true
  | .verified, .pending | .verified, .completed => true
  | status, target => status == target

def isTerminal (status : Status) : Bool :=
  status == .completed

end Status

/-! ### Lifecycle -/

namespace Lifecycle

inductive Input where
  | verify
  | exhaustAttempts
  | expire
  | resend
  | complete
  deriving DecidableEq

def Input.all : List Input := [.verify, .exhaustAttempts, .expire, .resend, .complete]

def Input.title : Input → String
  | .verify => "Verify"
  | .exhaustAttempts => "ExhaustAttempts"
  | .expire => "Expire"
  | .resend => "Resend"
  | .complete => "Complete"

/-- Whether a step did something that others hear of. -/
inductive Effect where
  | changed
  | unchanged
  deriving DecidableEq

def Effect.title : Effect → String
  | .changed => "Changed"
  | .unchanged => "Unchanged"

inductive Refusal where
  | invalidTransition (source input : String)
  | businessRuleViolation (rule : String)
  deriving DecidableEq

def Refusal.title : Refusal → String
  | .invalidTransition _ _ => "InvalidTransition"
  | .businessRuleViolation _ => "BusinessRuleViolation"

def Refusal.message : Refusal → String
  | .invalidTransition source input => s!"Invalid transition from {source} to {input}"
  | .businessRuleViolation rule => s!"Business rule violated: {rule}"

/-- Where an input leads from a status that takes it. -/
def target? : Status → Input → Option Status
  | .pending, .verify => some .verified
  | .pending, .exhaustAttempts => some .expired
  | .pending, .expire | .expired, .expire => some .expired
  | .pending, .resend | .expired, .resend | .verified, .resend => some .pending
  | .verified, .complete | .completed, .complete => some .completed
  | _, _ => none

/-- One step of the machine. A step that stays where it was has no effect,
except that a resend always has one. -/
def step (status : Status) (input : Input) : Except Refusal (Status × Effect) :=
  match target? status input with
  | some target =>
      .ok (target,
        if target = status ∧ input ≠ .resend then .unchanged else .changed)
  | none =>
      .error <|
        if status = .completed then .businessRuleViolation "Registration already completed"
        else .invalidTransition status.word input.title

def accepts (status : Status) (input : Input) : Bool :=
  (step status input).isOk

def validInputs : Status → List Input
  | .pending => [.verify, .exhaustAttempts, .expire, .resend]
  | .expired => [.expire, .resend]
  | .verified => [.resend, .complete]
  | .completed => [.complete]

end Lifecycle

end Enrolment
