/-
What a registration never loses. Under a usable policy the timers lie after the creation and
after the last code that was sent, the code has the form that the policy asks for, and every
event names the registration. The clock may go back: a resend waits for the timer that the
code before it started, so no code is ever older than the registration.
-/

import Enrolment.Proofs.Cooldown
import Enrolment.Proofs.Identity

namespace Enrolment

open Time

/-! ### The form of codes -/

namespace Code

structure Fits (length : Nat) (code : Code) : Prop where
  length : code.text.length = length
  symbols : ∀ character ∈ code.text.toList, character.isUpper ∨ character.isDigit

theorem symbol_isUpper_or_isDigit (byte : UInt8) :
    (symbol byte).isUpper ∨ (symbol byte).isDigit := by
  have whole : alphabet.all (fun character => character.isUpper || character.isDigit) = true := by
    decide
  have drawn : symbol byte ∈ alphabet := List.mem_of_getElem? (alphabet_getElem? byte)
  exact (Bool.or_eq_true _ _).mp (List.all_eq_true.mp whole _ drawn)

theorem fits_of_generate {length : Nat} {blocks unused : List Block} {code : Code}
    (drawn : generate length blocks = .ok (code, unused)) : code.Fits length := by
  have spec := generates length blocks
  rw [drawn] at spec
  cases spec with
  | drawn fewest text =>
      constructor
      · rw [← String.length_toList, text, List.length_map, List.length_take]
        exact Nat.min_eq_left fewest.within
      · intro character member
        rw [text] at member
        obtain ⟨byte, _, rfl⟩ := List.mem_map.mp member
        exact symbol_isUpper_or_isDigit byte

theorem fits_of_generateDistinct {length : Nat} {previous code : Code}
    {blocks unused : List Block}
    (drawn : generateDistinct length previous blocks = .ok (code, unused)) :
    code.Fits length := by
  cases length with
  | zero => cases drawn
  | succ length =>
      obtain ⟨_, _, _, result, _⟩ := generateDistinct_spec (Nat.succ_pos length) previous blocks
      rw [result] at drawn
      exact fits_of_generate drawn

theorem Fits.text_ne_empty {length : Nat} {code : Code} (fits : code.Fits length)
    (positive : 1 ≤ length) : code.text ≠ "" := by
  intro empty
  have none : "".length = length := by
    rw [← empty]
    exact fits.length
  rw [← none] at positive
  exact absurd positive (by decide)

end Code

/-! ### What usages keep -/

namespace Usage

section Events

variable {allowed : Operation → Prop} {start registration : Registration}
  {performances : List Performance}

theorem identity (usage : Usage allowed start performances registration) :
    registration.identity = start.identity := by
  induction usage with
  | start => rfl
  | @perform performances registration earlier operation permitted ih =>
      exact (operation.identity_run registration).trans ih
  | commitEvents earlier ih => exact ih

theorem tellsOfItself (usage : Usage allowed start performances registration)
    (tells : start.TellsOfItself) : registration.TellsOfItself := by
  induction usage with
  | start => exact tells
  | perform earlier operation permitted ih => exact operation.tellsOfItself_run ih
  | commitEvents earlier ih => exact List.forall_mem_nil _

theorem about_of_mem_recordedIn (usage : Usage allowed start performances registration)
    (tells : start.TellsOfItself) :
    ∀ event ∈ recordedIn performances, event.IsAbout start.identity := by
  induction usage with
  | start => exact List.forall_mem_nil _
  | commitEvents earlier ih => exact ih
  | perform earlier operation permitted ih =>
      have usage := earlier.perform operation permitted
      rw [recordedIn_concat, List.forall_mem_append]
      refine ⟨ih, ?_⟩
      intro event member
      rw [← usage.identity]
      apply usage.tellsOfItself tells
      rw [Performance.recorder_after]
      exact List.mem_append_right _ member

end Events

variable {policy : Policy} {occasion : Occasion} {id : RegistrationId} {email : String}
  {issued registration : Registration} {performances : List Performance}

theorem fits (succeeded : Registration.issue policy occasion id email = .ok issued)
    (usage : Usage (·.policy = policy) issued performances registration) :
    registration.code.Fits policy.codeLength := by
  induction usage with
  | start =>
      obtain ⟨_, _, _, _, _, _, drawn, _, rfl⟩ := Registration.issue_eq_ok succeeded
      exact Code.fits_of_generate drawn
  | commitEvents earlier ih => exact ih
  | @perform performances registration earlier operation permitted ih =>
      cases (⟨registration, operation⟩ : Performance).posting with
      | nothing keepsCode credential silent =>
          have same : (⟨registration, operation⟩ : Performance).after.code = registration.code :=
            congrArg Credential.code credential
          rw [same]
          exact ih
      | code renews waited timers drawn recorded sends stamp =>
          rw [permitted] at drawn
          exact Code.fits_of_generateDistinct drawn

/-- No code is older than the registration, even if the clock went back. -/
theorem began_le_codeTime (positive : Duration.zero < policy.resendCooldown)
    (succeeded : Registration.issue policy occasion id email = .ok issued)
    (usage : Usage (·.policy = policy) issued performances registration) :
    occasion.now ≤ codeTime occasion.now performances := by
  have spaced := usage.spaced positive succeeded
  have increasing := spaced.increasing
  rw [spaced.stamps, List.pairwise_cons] at increasing
  rw [codeTime, List.getLastD_eq_getLast?]
  cases last : (renewalTimes performances).getLast? with
  | none => exact le_refl _
  | some time => exact le_of_lt (increasing.1 time (List.mem_of_getLast? last))

end Usage

/-! ### Invariants -/

/-- Once the timers and the code are in order and the events its own, a registration can only
break the rule about the time of its last change. -/
theorem Registration.violation?_eq {registration : Registration}
    (expiry : registration.createdAt < registration.codeExpiresAt)
    (cooldown : registration.createdAt < registration.resendTimeout)
    (code : registration.code.text ≠ "") (tells : registration.TellsOfItself) :
    registration.violation? = if registration.updatedAt < registration.createdAt
      then some .updatedBeforeCreated else none := by
  have noneForeign : registration.recorder.events.find?
      (fun event => event.registrationId ≠ registration.id) = none := by
    rw [List.find?_eq_none]
    intro event member
    have own : event.registrationId = registration.id := (tells event member).2.1
    simpa using own
  rw [violation?, if_neg (not_le_of_gt expiry), if_neg (not_le_of_gt cooldown), if_neg code,
    noneForeign, Option.map_none]

structure Sound (policy : Policy) (given : Identity) (performances : List Performance)
    (log : List Event) (registration : Registration) : Prop where
  identity : registration.identity = given
  fits : registration.code.Fits policy.codeLength
  /-- Both timers are those that the last code started. -/
  timed : Timed policy given.createdAt performances registration
  expiryAfterCode : codeTime given.createdAt performances < registration.codeExpiresAt
  cooldownAfterCode : codeTime given.createdAt performances < registration.resendTimeout
  expiryAfterCreation : given.createdAt < registration.codeExpiresAt
  cooldownAfterCreation : given.createdAt < registration.resendTimeout
  about : ∀ event ∈ log, event.IsAbout given
  uncommitted : registration.recorder.events <:+ log
  onlyUpdate : registration.violation? =
    if registration.updatedAt < given.createdAt then some .updatedBeforeCreated else none

theorem Usage.sound {policy : Policy} (usable : policy.validate = .ok ())
    {occasion : Occasion} {id : RegistrationId} {text : String} {issued : Registration}
    (succeeded : Registration.issue policy occasion id text = .ok issued)
    {performances : List Performance} {registration : Registration}
    (usage : Usage (·.policy = policy) issued performances registration) :
    ∃ email, Email.parse text = .ok email ∧
      Sound policy ⟨id, email, occasion.now⟩ performances
        (issued.recorder.events ++ recordedIn performances) registration := by
  obtain ⟨longer, lifetime, cooldown⟩ := Policy.positive_of_validate usable
  obtain ⟨email, _, _, _, _, parsed, _, _, whole⟩ := Registration.issue_eq_ok succeeded
  have begins : issued.identity = ⟨id, email, occasion.now⟩ := by
    rw [whole]
    rfl
  have tells := (Registration.Built.issue succeeded).tellsOfItself
  have identity := usage.identity.trans begins
  have fits := usage.fits succeeded
  have timed := usage.timed succeeded
  have expiryAfterCode := Instant.lt_of_add? lifetime timed.codeExpiresAt
  have cooldownAfterCode := Instant.lt_of_add? cooldown timed.resendTimeout
  -- A code is never older than the registration, so what is after the code is after both.
  have notBefore := usage.began_le_codeTime cooldown succeeded
  have expiryAfterCreation := lt_of_le_of_lt notBefore expiryAfterCode
  have cooldownAfterCreation := lt_of_le_of_lt notBefore cooldownAfterCode
  refine ⟨email, parsed, identity, fits, timed, expiryAfterCode, cooldownAfterCode,
    expiryAfterCreation, cooldownAfterCreation, ?_, usage.suffix, ?_⟩
  · rw [List.forall_mem_append, ← begins]
    exact ⟨tells, usage.about_of_mem_recordedIn tells⟩
  · have createdAt : registration.createdAt = occasion.now := congrArg Identity.createdAt identity
    rw [← createdAt] at expiryAfterCreation cooldownAfterCreation
    rw [Registration.violation?_eq expiryAfterCreation cooldownAfterCreation
      (fits.text_ne_empty longer) (usage.tellsOfItself tells), createdAt]

/-- Under a usable policy registrations stay sound, in the hands of a caller as in storage,
with operations that succeed or fail at times in any order. -/
theorem Policy.keeps_sound {policy : Policy} (usable : policy.validate = .ok ()) :
    (∀ (occasion : Occasion) (id : RegistrationId) (text : String)
      (issued registration : Registration) (performances : List Performance),
      Registration.issue policy occasion id text = .ok issued →
      Usage (·.policy = policy) issued performances registration →
        ∃ email, Email.parse text = .ok email ∧
          Sound policy ⟨id, email, occasion.now⟩ performances
            (issued.recorder.events ++ recordedIn performances) registration) ∧
    ∀ (steps : List Step) (store : Store) (id : RegistrationId) (record : StoredRegistration),
      Run (Access.IsStandard (· = policy)) steps store →
      store.records.get? id = some record →
        ∃ email createdAt,
          Sound policy ⟨id, email, createdAt⟩ ((exchangesWith id steps).map Exchange.performance)
            ((store.eventsOf id).map StoredEvent.event) (.rehydrate record.snapshot) := by
  constructor
  · intro occasion id text issued registration performances succeeded usage
    exact usage.sound usable succeeded
  · intro steps store id record run found
    obtain ⟨given, occasion, text, issued, rfl, succeeded, usage, log⟩ := run.usage found
    obtain ⟨email, parsed, sound⟩ := usage.sound usable succeeded
    refine ⟨email, occasion.now, ?_⟩
    rw [log]
    exact sound

/-! ### A sample -/

theorem keeps_sound_of_replaced :
    Policy.brief.validate = .ok () ∧
      (Registration.replaced.violation? = none ∧
        ∃ email, Email.parse "a@b" = .ok email ∧
          Sound .brief ⟨⟨.nil⟩, email, .epoch⟩ Performance.replacement
            (Registration.unanswered.recorder.events ++ recordedIn Performance.replacement)
            .replaced) ∧
      ∃ record email createdAt,
        (Store.empty.afterAll recovery).records.get? ⟨.nil⟩ = some record ∧
        Sound .brief ⟨⟨.nil⟩, email, createdAt⟩
          ((exchangesWith ⟨.nil⟩ (trace .empty recovery)).map Exchange.performance)
          (((Store.empty.afterAll recovery).eventsOf ⟨.nil⟩).map StoredEvent.event)
          (.rehydrate record.snapshot) := by
  have usable : Policy.brief.validate = .ok () := rfl
  have succeeded : Registration.issue .brief (.uniform .epoch 0) ⟨.nil⟩ "a@b" =
      .ok .unanswered := rfl
  obtain ⟨inHand, inStorage⟩ := Policy.keeps_sound usable
  obtain ⟨email, createdAt, stored⟩ := inStorage _ _ ⟨.nil⟩ _ run_recovery rfl
  refine ⟨usable, ⟨by decide, ?_⟩, _, email, createdAt, rfl, stored⟩
  exact inHand _ _ _ _ _ _ succeeded Registration.usage_replaced

end Enrolment
