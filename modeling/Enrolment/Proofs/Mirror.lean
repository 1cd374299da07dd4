/-
Delivery in memory mirrors the log. After every call the publisher holds the events of the log,
in their order and each under its subject, since a call hands over exactly the events that it
commits. A call that commits nothing publishes nothing.
-/

import Enrolment.Proofs.Errand

namespace Enrolment

/-! ### The outbox -/

namespace Outbox

theorem push_nil (outbox : Outbox) : outbox.push [] = outbox := by
  unfold push
  rw [List.map_nil, List.append_nil]

theorem conclude_eq (dealing : Dealing) (outbox : Outbox) :
    dealing.conclude publisher outbox =
      { result := dealing.result
        after := { storage := dealing.storage, channel := outbox.push dealing.events } } := by
  by_cases silent : dealing.events = []
  · rw [Dealing.conclude_of_silent publisher dealing outbox silent, silent, push_nil]
  · rw [Dealing.conclude, if_neg silent]
    rfl

theorem text_delivery (event : Event) :
    (delivery event).subject.text =
      s!"registration.{event.kind.token}.{event.registrationId}" := rfl

end Outbox

namespace Backends

def InStep (backends : Backends Store Outbox) : Prop :=
  backends.channel.deliveries =
    (backends.storage.log.map StoredEvent.event).map Outbox.delivery

/-- The publisher holds the events of the log, and each has its subject beside it. -/
structure Mirrors (backends : Backends Store Outbox) : Prop where
  events : backends.channel.events = backends.storage.log.map StoredEvent.event
  subjects : ∀ (place : Nat) (event : Event), backends.channel.events[place]? = some event →
    ∃ subject : Subject, backends.channel.subjects[place]? = some subject ∧
      subject = .ofEvent "registration" event ∧
      subject.text = s!"registration.{event.kind.token}.{event.registrationId}"
  nothingMore : backends.channel.subjects.length = backends.channel.events.length

theorem InStep.mirrors {backends : Backends Store Outbox} (inStep : backends.InStep) :
    backends.Mirrors := by
  unfold InStep at inStep
  have events : backends.channel.events = backends.storage.log.map StoredEvent.event := by
    rw [Outbox.events, inStep, List.map_map]
    exact List.map_id _
  have subjects : backends.channel.subjects =
      backends.channel.events.map fun event => (Outbox.delivery event).subject := by
    rw [events, Outbox.subjects, inStep, List.map_map]
    rfl
  refine { events, subjects := ?_, nothingMore := by rw [subjects, List.length_map] }
  intro place event told
  refine ⟨(Outbox.delivery event).subject, ?_, rfl, Outbox.text_delivery event⟩
  rw [subjects, List.getElem?_map, told]
  rfl

def empty : Backends Store Outbox :=
  { storage := .empty, channel := .empty }

theorem inStep_empty : empty.InStep := rfl

end Backends

namespace Service

variable (policy : Policy) (derive : Derivation)

theorem unpublished (backends : Backends Store Outbox) :
    ({ storage := backends.storage, channel := backends.channel.push [] } : Backends Store Outbox) =
      backends := by
  rw [Outbox.push_nil]

theorem serve_outbox (backends : Backends Store Outbox) (request : Request) :
    (inMemory Outbox.publisher policy derive).serve backends request =
      { result := ((request.errand policy derive).dealing backends.storage).result
        after :=
          { storage := ((request.errand policy derive).dealing backends.storage).storage
            channel := backends.channel.push
              ((request.errand policy derive).dealing backends.storage).events } } := by
  rw [serve_eq, Outbox.conclude_eq]

theorem inStep_serve {backends : Backends Store Outbox} (inStep : backends.InStep)
    (request : Request) :
    ((inMemory Outbox.publisher policy derive).serve backends request).after.InStep := by
  unfold Backends.InStep at inStep ⊢
  rw [serve_outbox]
  dsimp only [Outbox.push]
  rw [inStep, Errand.log_dealing, List.map_append]

theorem inStep_afterAll {backends : Backends Store Outbox} (inStep : backends.InStep)
    (requests : List Request) :
    ((inMemory Outbox.publisher policy derive).afterAll backends requests).InStep := by
  induction requests generalizing backends with
  | nil => exact inStep
  | cons request rest ih => exact ih (inStep_serve policy derive inStep request)

end Service

/-! ### What a call publishes and reports -/

structure Conveyed (policy : Policy) (derive : Derivation) (request : Request)
    (before : Backends Store Outbox) (answer : Answer Store Outbox) : Prop where
  mirrors : answer.after.Mirrors
  /-- A password that cannot be hashed is refused before the address is looked at. -/
  invalidEmail : ∀ text cause, request.address? = some text → Email.parse text = .error cause →
    answer.after = before ∧
      (answer.result = .error (.registration (.invalidEmail cause)) ∨
        ∃ candidate account password error,
          request.call = .complete text candidate account password ∧
            password.hash derive policy.hashing request.moment.salt = .error error ∧
            answer.result = .error (.registration error))
  unknown : ∀ error, answer.result = .error (.repository error) → answer.after = before
  rejected : ∀ email error, request.Decides policy derive before.storage email (.reject error) →
    answer.after = before ∧ answer.result = .error (.registration error)
  /-- A failure that comes with a change is reported after its events are published. -/
  failed : ∀ email registration error,
    request.Decides policy derive before.storage email (.commitAndFail registration error) →
      answer.after.channel = before.channel.push registration.recorder.events ∧
        answer.result = .error (.registration error)
  /-- Any other call that changes something gives back the registration as it is stored. -/
  stored : answer.after ≠ before →
    (∀ email registration error,
      ¬ request.Decides policy derive before.storage email (.commitAndFail registration error)) →
    ∃ text email registration, request.address? = some text ∧ Email.parse text = .ok email ∧
      answer.result = .ok registration ∧
      answer.after.storage.findByEmail email = .ok registration

namespace Request

variable {policy : Policy} {derive : Derivation} {request : Request}

theorem errand_of_invalidEmail {text : String} {cause : EmailError}
    (named : request.address? = some text) (invalid : Email.parse text = .error cause) :
    request.errand policy derive = .refuse (.invalidEmail cause) ∨
      ∃ candidate account password error,
        request.call = .complete text candidate account password ∧
          password.hash derive policy.hashing request.moment.salt = .error error ∧
          request.errand policy derive = .refuse error := by
  obtain ⟨moment, call⟩ := request
  have lost (next : Email → Errand) :
      Errand.toAddress text next = .refuse (.invalidEmail cause) := by
    unfold Errand.toAddress
    rw [invalid]
  cases call with
  | findById id => cases named
  | start address =>
      obtain rfl : address = text := Option.some.inj named
      left
      unfold errand Registration.issue
      simp only [invalid, Except.mapError, bind, Except.bind]
  | verify address candidate | check address candidate =>
      obtain rfl : address = text := Option.some.inj named
      exact Or.inl (lost _)
  | resend address | findByEmail address =>
      obtain rfl : address = text := Option.some.inj named
      exact Or.inl (lost _)
  | complete address candidate account password =>
      obtain rfl : address = text := Option.some.inj named
      unfold errand
      dsimp only
      cases hashed : password.hash derive policy.hashing moment.salt with
      | ok hash => exact Or.inl (lost _)
      | error error => exact Or.inr ⟨candidate, account, password, error, rfl, hashed, rfl⟩

end Request

theorem Store.findByEmail_of_found {store : Store} {email : Email} {id : RegistrationId}
    {registration : Registration} (located : store.addresses.get? email = some id)
    (found : store.findById id = .ok registration) :
    store.findByEmail email = .ok registration := by
  unfold findByEmail latest
  rw [located]
  exact found

/-- An errand that changes something, and does not end in a failure, gives back the
registration that now stands for its address. -/
theorem Errand.Ending.stored {steps : List Step} {store : Store} (grounded : Grounded steps store)
    {policy : Policy} {name : Option String} {errand : Errand} {dealing : Dealing}
    (ending : errand.Ending store dealing) (fits : Request.Fits policy name errand)
    (changes : ¬ (dealing.storage = store ∧ dealing.events = []))
    (noFailure : ∀ email operation id stored registration error,
      errand = .operate email operation → store.addresses.get? email = some id →
      store.records.get? id = some stored →
      stored.decision (.ofOperation operation) ≠ .commitAndFail registration error) :
    ∃ text email registration, name = some text ∧ Email.parse text = .ok email ∧
      dealing.result = .ok registration ∧ dealing.storage.findByEmail email = .ok registration := by
  cases ending with
  | refused | duplicate | found | notFound | lost | rejected | unchanged =>
      exact absurd ⟨rfl, rfl⟩ changes
  | failed located found decided =>
      exact absurd decided (noFailure _ _ _ _ _ _ rfl located found)
  | @saved registration absent =>
      cases fits with
      | saved named issued =>
          obtain ⟨email, code, unused, codeExpiresAt, resendTimeout, parsed, _, _, rfl⟩ :=
            Registration.issue_eq_ok issued
          refine ⟨_, email, _, named, parsed, rfl, ?_⟩
          exact Store.findByEmail_of_found (Table.get?_insert_self _ _ _)
            (Store.holds_save store).found
  | @committed email operation id stored registration located found decided =>
      cases fits with
      | operated named parsed samePolicy =>
          have kept : (stored.decision (.ofOperation operation)).committed? = some registration := by
            rw [decided]
            rfl
          have sameId : registration.id = id := grounded.id_of_committed found kept
          refine ⟨_, email, _, named, parsed, rfl, ?_⟩
          have now : (store.commit registration (stored.version + 1)).records.get? id =
              some ⟨registration.toSnapshot, stored.version + 1⟩ := by
            rw [Store.get?_commit, if_pos sameId.symm]
          have addressed : (store.commit registration (stored.version + 1)).addresses.get? email =
              some id := located
          exact Store.findByEmail_of_found addressed (Store.findById_of_found now)

/-- After any calls the publisher mirrors the log, and the next call publishes what it commits
and reports what became of it. -/
theorem Service.conveyed (policy : Policy) (derive : Derivation) (earlier : List Request)
    (request : Request) :
    Conveyed policy derive request
      ((inMemory Outbox.publisher policy derive).afterAll .empty earlier)
      ((inMemory Outbox.publisher policy derive).serve
        ((inMemory Outbox.publisher policy derive).afterAll .empty earlier) request) := by
  have inStep : ((inMemory Outbox.publisher policy derive).afterAll .empty earlier).InStep :=
    inStep_afterAll policy derive Backends.inStep_empty earlier
  have begun : Run (Access.IsStandard (· = policy)) [] Backends.empty.storage := .start
  obtain ⟨steps, run⟩ := begun.serve Outbox.publisher derive earlier
  generalize (inMemory Outbox.publisher policy derive).afterAll .empty earlier = before at inStep run
  have grounded : Grounded steps before.storage := .of_run run.isSound
  have mirrors := (inStep_serve policy derive inStep request).mirrors
  have ending := (request.errand policy derive).ending before.storage
  rw [serve_outbox] at mirrors ⊢
  constructor
  · exact mirrors
  · intro text cause named invalid
    rcases Request.errand_of_invalidEmail named invalid with
      refused | ⟨candidate, account, password, error, call, hashed, refused⟩
    · rw [refused]
      exact ⟨unpublished before, Or.inl rfl⟩
    · rw [refused]
      exact ⟨unpublished before, Or.inr ⟨candidate, account, password, error, call, hashed, rfl⟩⟩
  · intro error reported
    generalize request.errand policy derive = errand at ending reported
    generalize errand.dealing before.storage = dealing at ending reported
    cases ending with
    | duplicate | notFound | lost => exact unpublished before
    | refused | rejected | failed => cases reported
    | saved | found | unchanged | committed => cases reported
  · intro email error decides
    obtain ⟨stored, dealt⟩ := decides.dealing
    rw [dealt]
    exact ⟨unpublished before, rfl⟩
  · intro email registration error decides
    obtain ⟨stored, dealt⟩ := decides.dealing
    rw [dealt]
    exact ⟨rfl, rfl⟩
  · intro changes noFailure
    refine ending.stored grounded request.fits ?_ ?_
    · rintro ⟨storage, events⟩
      apply changes
      rw [storage, events]
      exact unpublished before
    · intro email operation id stored registration error errand located found decided
      exact noFailure email registration error
        ⟨operation, id, stored, errand, located, found, decided⟩

/-! ### A sample -/

def Request.brief (call : Call) : Request :=
  { moment :=
      { occasion := .uniform .epoch 0, registrationId := ⟨.nil⟩, salt := Vector.replicate 16 0 }
    call }

/-- The start is published, the first wrong answer has no event, and the last one is reported as a
failure that others hear of. -/
theorem Service.conveyed_of_exhaustion :
    let service := inMemory Outbox.publisher .brief Argon2.derive
    let before := service.afterAll .empty
      [.brief (.start "a@b"), .brief (.verify "a@b" "B")]
    let request := Request.brief (.verify "a@b" "C")
    let answer := service.serve before request
    Conveyed .brief Argon2.derive request before answer ∧
      before.channel.events.map Event.kind = [.started] ∧
      ∃ registration,
        request.Decides .brief Argon2.derive before.storage ⟨"a@b"⟩
          (.commitAndFail registration (.tooManyAttempts 2)) ∧
        answer.after.channel = before.channel.push registration.recorder.events ∧
        answer.after.channel.events.map Event.kind = [.started, .failed] ∧
        answer.result = .error (.registration (.tooManyAttempts 2)) := by
  intro service before request answer
  have begun : before.channel.events.map Event.kind = [.started] := by decide +kernel
  have ended : answer.after.channel.events.map Event.kind = [.started, .failed] := by
    decide +kernel
  have conveyed : Conveyed .brief Argon2.derive request before answer :=
    Service.conveyed .brief Argon2.derive _ request
  obtain ⟨registration, decides⟩ : ∃ registration,
      request.Decides .brief Argon2.derive before.storage ⟨"a@b"⟩
        (.commitAndFail registration (.tooManyAttempts 2)) :=
    ⟨_, _, ⟨.nil⟩, _, rfl, rfl, rfl, rfl⟩
  obtain ⟨published, reported⟩ := conveyed.failed _ _ _ decides
  exact ⟨conveyed, begun, registration, decides, published, ended, reported⟩

end Enrolment
