/-
Units of work on a stored registration. A mutation is a script of operations
under a name. It runs on a registration as it was loaded, and what comes out
says what storage has to keep: the new state with its events, perhaps together
with a failure to report, or nothing.
-/

import Enrolment.Registration

namespace Enrolment

/-- A command with all that it runs under. -/
structure Operation where
  command : Command
  policy : Policy
  occasion : Occasion

def Operation.run (operation : Operation) (registration : Registration) : Outcome :=
  operation.command.perform operation.policy operation.occasion registration

/-! ### Scripts -/

/-- What a unit of work does with a registration: it can look at it, perform
operations on it and take its uncommitted events, and each next thing may depend
on what came back. It reaches the registration in no other way. -/
inductive Script where
  | finish (result : Except RegistrationError Unit)
  | observe (next : Registration → Script)
  | perform (operation : Operation) (next : Except RegistrationError Unit → Script)
  | takeEvents (next : List Event → Script)

namespace Script

def run : Script → Registration → Outcome
  | .finish result, registration => { result, after := registration }
  | .observe next, registration => (next registration).run registration
  | .perform operation next, registration =>
      let outcome := operation.run registration
      (next outcome.result).run outcome.after
  | .takeEvents next, registration =>
      let (events, drained) := registration.commitEvents
      (next events).run drained

/-- One script, and then another that knows its result. -/
def andThen : Script → (Except RegistrationError Unit → Script) → Script
  | .finish result, next => next result
  | .observe inner, next => .observe fun registration => (inner registration).andThen next
  | .perform operation inner, next =>
      .perform operation fun result => (inner result).andThen next
  | .takeEvents inner, next => .takeEvents fun events => (inner events).andThen next

/-- Scripts one after another. The first failure ends the sequence, unless
failures are to be ignored. -/
def sequence (ignoreFailures : Bool) : List Script → Script
  | [] => .finish (.ok ())
  | script :: rest =>
      script.andThen fun result =>
        match result with
        | .ok () => sequence ignoreFailures rest
        | .error error =>
            if ignoreFailures then sequence ignoreFailures rest else .finish (.error error)

end Script

/-! ### Mutations -/

structure Mutation where
  name : String
  script : Script

def Mutation.ofOperation (operation : Operation) : Mutation :=
  { name := operation.command.name, script := .perform operation .finish }

/-- What storage has to do after a unit of work. -/
inductive Transition where
  /-- Keep the new state and its events. -/
  | commit (registration : Registration)
  /-- Keep the new state and its events, then report the failure. -/
  | commitAndFail (registration : Registration) (error : RegistrationError)
  | unchanged
  /-- Drop everything and report the failure. -/
  | reject (error : RegistrationError)
  deriving DecidableEq

namespace Transition

def title : Transition → String
  | .commit _ => "Commit"
  | .commitAndFail _ _ => "CommitAndFail"
  | .unchanged => "Unchanged"
  | .reject _ => "Reject"

def committed? : Transition → Option Registration
  | .commit registration | .commitAndFail registration _ => some registration
  | .unchanged | .reject _ => none

def isCommit (transition : Transition) : Bool :=
  transition.committed?.isSome

def error? : Transition → Option RegistrationError
  | .commitAndFail _ error | .reject error => some error
  | .commit _ | .unchanged => none

end Transition

namespace Mutation

/-- Whether a unit of work left something to keep. -/
def Changed (before after : Registration) : Prop :=
  after.toSnapshot ≠ before.toSnapshot ∨ after.recorder.size ≠ before.recorder.size

instance (before after : Registration) : Decidable (Changed before after) :=
  inferInstanceAs (Decidable (_ ∨ _))

/-- A failure keeps a change only if it is a persistent one. -/
def run (mutation : Mutation) (loaded : Registration) : Transition :=
  let outcome := mutation.script.run loaded
  match outcome.result with
  | .ok () =>
      if Changed loaded outcome.after then .commit outcome.after else .unchanged
  | .error error =>
      if Changed loaded outcome.after ∧ error.isPersistent then
        .commitAndFail outcome.after error
      else .reject error

end Mutation

end Enrolment
