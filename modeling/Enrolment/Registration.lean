/-
Registrations: their state, and the operations that change it. An operation that
fails may still have changed the state, so it always gives the registration back
beside its result. Time and random values come in with the occasion.
-/

import Enrolment.Event
import Enrolment.Policy

namespace Enrolment

open Time

/-- The state of a registration that is kept in storage. -/
structure Snapshot where
  id : RegistrationId
  email : Email
  status : Status
  code : Code
  attempts : UInt8
  codeExpiresAt : Instant
  resendTimeout : Instant
  createdAt : Instant
  updatedAt : Instant
  deriving DecidableEq

/-- A registration at work: its state and the events not yet committed. -/
structure Registration extends Snapshot where
  recorder : Recorder
  deriving DecidableEq

/-- When an operation happens, which request it belongs to, and the random
values that it can draw on. -/
structure Occasion where
  now : Instant
  correlationId : Uuid
  /-- Names the event that the operation records. -/
  eventId : Uuid
  /-- Names the verification that a completion brings about on its way. -/
  verificationId : Uuid
  entropy : List Code.Block

structure Outcome where
  result : Except RegistrationError Unit
  after : Registration

namespace Registration

def rehydrate (snapshot : Snapshot) : Registration :=
  { snapshot with recorder := .empty }

def done (registration : Registration) : Outcome :=
  { result := .ok (), after := registration }

def refuse (error : RegistrationError) (registration : Registration) : Outcome :=
  { result := .error error, after := registration }

/-! ### Parts of operations -/

/-- Records an event, caused by the last one that is still uncommitted. -/
def record (occasion : Occasion) (eventId : Uuid) (body : EventBody)
    (registration : Registration) : Registration :=
  { registration with
    recorder := registration.recorder.record
      { version := Event.currentVersion
        id := eventId
        registrationId := registration.id
        timestamp := occasion.now
        correlationId := occasion.correlationId
        causationId := registration.recorder.last?.map Event.id
        email := registration.email
        body } }

def advance (input : Lifecycle.Input) (operation : String) (registration : Registration) :
    Except RegistrationError (Registration × Lifecycle.Effect) :=
  match Lifecycle.step registration.status input with
  | .ok (status, effect) => .ok ({ registration with status }, effect)
  | .error (.businessRuleViolation _) => .error .registrationCompleted
  | .error (.invalidTransition _ _) => .error (.invalidStatus operation registration.status)

def deadline (now : Instant) (span : Duration) (field : String) :
    Except RegistrationError Instant :=
  match now.add? span with
  | some instant => .ok instant
  | none => .error (.timestampOverflow field)

/-- Both timers that a new code starts: its expiry, and the end of the wait for
the next one. -/
def timers (policy : Policy) (now : Instant) :
    Except RegistrationError (Instant × Instant) := do
  let codeExpiresAt ← deadline now policy.codeLifetime "code_expires_at"
  let resendTimeout ← deadline now policy.resendCooldown "resend_timeout"
  return (codeExpiresAt, resendTimeout)

/-- One more attempt; the count stops at its largest value. -/
def nextAttempt (attempts : UInt8) : UInt8 :=
  if attempts = 255 then 255 else attempts + 1

/-! ### Operations -/

def issue (policy : Policy) (occasion : Occasion) (id : RegistrationId) (email : String) :
    Except RegistrationError Registration := do
  let email ← (Email.parse email).mapError .invalidEmail
  let (code, _) ← Code.generate policy.codeLength occasion.entropy
  let (codeExpiresAt, resendTimeout) ← timers policy occasion.now
  let registration : Registration :=
    { id, email, code, codeExpiresAt, resendTimeout
      status := .pending
      attempts := 0
      createdAt := occasion.now
      updatedAt := occasion.now
      recorder := .empty }
  return registration.record occasion occasion.eventId (.started code)

/-- Takes an answer to the code. An expired code fails before it is looked at; a
wrong answer is counted, and the last one allowed ends the code. -/
def verify (policy : Policy) (occasion : Occasion) (eventId : Uuid) (candidate : String)
    (registration : Registration) : Outcome :=
  if (registration.status = .pending ∨ registration.status = .expired) ∧
      registration.codeExpiresAt < occasion.now then
    match registration.advance .expire "verify_code" with
    | .error error => registration.refuse error
    | .ok (expired, effect) =>
        refuse (.codeExpired registration.codeExpiresAt) <|
          if effect = .changed then { expired with updatedAt := occasion.now } else expired
  else if registration.status ≠ .pending then
    registration.refuse (.invalidStatus "verify_code" registration.status)
  else if registration.code.isMatch candidate then
    match registration.advance .verify "verify_code" with
    | .error error => registration.refuse error
    | .ok (verified, _) =>
        done <| record occasion eventId .emailVerified
          { verified with updatedAt := occasion.now }
  else
    let counted : Registration :=
      { registration with
        attempts := nextAttempt registration.attempts
        updatedAt := occasion.now }
    if counted.attempts < policy.maxAttempts then
      counted.refuse (.codeMismatch (policy.maxAttempts - counted.attempts))
    else
      match counted.advance .exhaustAttempts "verify_code" with
      | .error error => counted.refuse error
      | .ok (failed, _) =>
          refuse (.tooManyAttempts policy.maxAttempts) <|
            failed.record occasion eventId (.failed .tooManyAttempts)

/-- Looks at an answer again after verification, and changes nothing. -/
def check (occasion : Occasion) (candidate : String) (registration : Registration) : Outcome :=
  if registration.status ≠ .verified then registration.refuse .verifyFirst
  else if registration.codeExpiresAt < occasion.now then
    registration.refuse (.codeExpired registration.codeExpiresAt)
  else if registration.code.isMatch candidate then registration.done
  else registration.refuse .invalidCode

/-- Replaces the code, once the wait is over and unless the account exists. -/
def resend (policy : Policy) (occasion : Occasion) (registration : Registration) : Outcome :=
  if occasion.now ≤ registration.resendTimeout then
    registration.refuse (.resendThrottled (registration.resendTimeout.since occasion.now))
  else if registration.status.isTerminal then registration.refuse .registrationCompleted
  else
    match timers policy occasion.now with
    | .error error => registration.refuse error
    | .ok (codeExpiresAt, resendTimeout) =>
        match Code.generateDistinct policy.codeLength registration.code occasion.entropy with
        | .error error => registration.refuse error
        | .ok (code, _) =>
            match registration.advance .resend "resend_code" with
            | .error error => registration.refuse error
            | .ok (pending, _) =>
                done <| record occasion occasion.eventId (.codeResent code)
                  { pending with
                    code, codeExpiresAt, resendTimeout
                    attempts := 0
                    updatedAt := occasion.now }

/-- Nothing if the registration is verified, otherwise a verification. -/
def ensureVerified (policy : Policy) (occasion : Occasion) (candidate : String)
    (registration : Registration) : Outcome :=
  if registration.status = .verified then registration.done
  else registration.verify policy occasion occasion.verificationId candidate

def completionName : Account → String
  | .student _ => "complete_student_registration"
  | .staff _ => "complete_staff_registration"

/-- Creates the account. The code is compared first; if the account exists
already there is nothing left to do; and a registration that is not verified is
verified on the way. -/
def complete (policy : Policy) (occasion : Occasion) (candidate : String) (account : Account)
    (passwordHash : PasswordHash) (registration : Registration) : Outcome :=
  if registration.code.isMatch candidate = false then registration.refuse .invalidCode
  else if registration.status = .completed then registration.done
  else
    match account.validate with
    | .error error => registration.refuse (.invalidProfile error)
    | .ok () =>
        match registration.ensureVerified policy occasion candidate with
        | { result := .error error, after } => after.refuse error
        | { result := .ok (), after } =>
            match after.advance .complete (completionName account) with
            | .error error => after.refuse error
            | .ok (completed, _) =>
                done <| record occasion occasion.eventId (.completed account passwordHash)
                  { completed with updatedAt := occasion.now }

def commitEvents (registration : Registration) : List Event × Registration :=
  (registration.recorder.events, { registration with recorder := .empty })

/-! ### Invariants -/

inductive Violation where
  | updatedBeforeCreated
  | expiryNotAfterCreation
  | resendNotAfterCreation
  | emptyCode
  | foreignEvent (kind : EventKind) (owner : RegistrationId)
  deriving DecidableEq

def Violation.message : Violation → String
  | .updatedBeforeCreated => "updated_at precedes created_at"
  | .expiryNotAfterCreation => "code_expires_at is not after created_at"
  | .resendNotAfterCreation => "resend_timeout is not after created_at"
  | .emptyCode => "verification code is empty"
  | .foreignEvent kind owner => s!"recorded {kind.title} belongs to registration {owner}"

/-- The first rule that the registration breaks, if it breaks one. -/
def violation? (registration : Registration) : Option Violation :=
  if registration.updatedAt < registration.createdAt then some .updatedBeforeCreated
  else if registration.codeExpiresAt ≤ registration.createdAt then
    some .expiryNotAfterCreation
  else if registration.resendTimeout ≤ registration.createdAt then
    some .resendNotAfterCreation
  else if registration.code.text = "" then some .emptyCode
  else
    (registration.recorder.events.find? fun event =>
      event.registrationId ≠ registration.id).map fun event =>
        .foreignEvent event.kind event.registrationId

end Registration

/-! ### Commands -/

/-- An operation on a registration that exists, with its arguments. -/
inductive Command where
  | verify (candidate : String)
  | check (candidate : String)
  | resend
  | complete (candidate : String) (account : Account) (passwordHash : PasswordHash)
  deriving DecidableEq

namespace Command

def name : Command → String
  | .verify _ => "verify_code"
  | .check _ => "check_code"
  | .resend => "resend_code"
  | .complete _ account _ => Registration.completionName account

def perform (policy : Policy) (occasion : Occasion) :
    Command → Registration → Outcome
  | .verify candidate, registration =>
      registration.verify policy occasion occasion.eventId candidate
  | .check candidate, registration => registration.check occasion candidate
  | .resend, registration => registration.resend policy occasion
  | .complete candidate account passwordHash, registration =>
      registration.complete policy occasion candidate account passwordHash

end Command

end Enrolment
