/-
What brought an event about. Within one unit of work the events form a chain: the first has no
cause, and each other names the one recorded before it. Storage starts every unit of work with
nothing recorded, so a chain never leaves the commit that it stands in.
-/

import Enrolment.Proofs.Usage
import Mathlib.Data.List.Nodup

namespace Enrolment

/-- Each event was caused by the one before it, and the first by the given cause. -/
def Chained : Option Uuid → List Event → Prop
  | _, [] => True
  | cause, event :: rest => event.causationId = cause ∧ Chained (some event.id) rest

theorem Chained.concat {cause : Option Uuid} {events : List Event} {event : Event}
    (chained : Chained cause events)
    (linked : event.causationId = (events.getLast?.map Event.id).or cause) :
    Chained cause (events ++ [event]) := by
  induction events generalizing cause with
  | nil => exact ⟨linked, trivial⟩
  | cons first rest ih =>
      refine ⟨chained.1, ih chained.2 ?_⟩
      rw [linked, List.getLast?_cons]
      cases rest.getLast? <;> rfl

structure Event.Signed (event : Event) (identity : Identity) (occasion : Occasion) : Prop where
  about : event.IsAbout identity
  timestamp : event.timestamp = occasion.now
  correlationId : event.correlationId = occasion.correlationId

theorem Registration.signed_eventFor (registration : Registration) (occasion : Occasion)
    (eventId : Uuid) (body : EventBody) :
    (registration.eventFor occasion eventId body).Signed registration.identity occasion :=
  { about := ⟨rfl, rfl, rfl⟩, timestamp := rfl, correlationId := rfl }

theorem Registration.recorded_of_issue {policy : Policy} {occasion : Occasion}
    {id : RegistrationId} {email : String} {issued : Registration}
    (succeeded : issue policy occasion id email = .ok issued) :
    ∃ first, issued.recorder.events = [first] ∧ first.causationId = none ∧
      first.Signed issued.identity occasion := by
  obtain ⟨_, _, _, _, _, _, _, _, rfl⟩ := issue_eq_ok succeeded
  exact ⟨_, rfl, rfl, signed_eventFor _ _ _ _⟩

/-! ### Recording -/

structure Operation.Completes (operation : Operation) (account : Account)
    (passwordHash : PasswordHash) : Prop where
  command : ∃ candidate, operation.command = .complete candidate account passwordHash
  usable : account.validate = .ok ()

/-- What an operation records: nothing, one event, or a verification and after it the completion
that it made possible. -/
inductive Operation.Records (operation : Operation) (before : Registration) :
    List Event → Prop
  | nothing : Records operation before []
  | one (eventId : Uuid) (body : EventBody)
      (completes : ∀ account passwordHash, body = .completed account passwordHash →
        operation.Completes account passwordHash) :
      Records operation before [before.eventFor operation.occasion eventId body]
  | two (account : Account) (passwordHash : PasswordHash)
      (completes : operation.Completes account passwordHash) :
      Records operation before
        [before.eventFor operation.occasion operation.occasion.verificationId .emailVerified,
          (before.confirmed operation.occasion operation.occasion.verificationId).eventFor
            operation.occasion operation.occasion.eventId (.completed account passwordHash)]

namespace Operation

variable {operation : Operation} {before : Registration} {events : List Event}

theorem Change.records {outcome : Outcome} (change : operation.Change before outcome) :
    ∃ events, operation.Records before events ∧
      outcome.after.recorder.events = before.recorder.events ++ events := by
  cases change with
  | lapsed | missed => exact ⟨[], .nothing, (List.append_nil _).symm⟩
  | exhausted => exact ⟨_, .one operation.occasion.eventId (.failed .tooManyAttempts) nofun, rfl⟩
  | verified => exact ⟨_, .one operation.occasion.eventId .emailVerified nofun, rfl⟩
  | @resent code => exact ⟨_, .one operation.occasion.eventId (.codeResent code) nofun, rfl⟩
  | @completed candidate account passwordHash command _ _ usable =>
      refine ⟨_, .one operation.occasion.eventId (.completed account passwordHash) ?_, rfl⟩
      rintro _ _ ⟨⟩
      exact ⟨⟨candidate, command⟩, usable⟩
  | @completedAtOnce candidate account passwordHash command _ _ _ usable =>
      exact ⟨_, .two account passwordHash ⟨⟨candidate, command⟩, usable⟩,
        List.append_assoc before.recorder.events [_] [_]⟩

theorem Records.length_le (records : operation.Records before events) : events.length ≤ 2 := by
  cases records with
  | nothing | one | two => simp

theorem Records.signed (records : operation.Records before events) :
    ∀ event ∈ events, event.Signed before.identity operation.occasion := by
  cases records with
  | nothing => exact List.forall_mem_nil _
  | one eventId body => simpa using before.signed_eventFor operation.occasion eventId body
  | two account passwordHash =>
      simp only [List.forall_mem_cons]
      exact ⟨before.signed_eventFor _ _ _, Registration.signed_eventFor _ _ _ _,
        List.forall_mem_nil _⟩

theorem Records.chained (records : operation.Records before events)
    (chained : Chained none before.recorder.events) :
    Chained none (before.recorder.events ++ events) := by
  have linked (registration : Registration) (eventId : Uuid) (body : EventBody) :
      (registration.eventFor operation.occasion eventId body).causationId =
        (registration.recorder.events.getLast?.map Event.id).or none :=
    (Option.or_none).symm
  cases records with
  | nothing => rwa [List.append_nil]
  | one eventId body => exact chained.concat (linked before eventId body)
  | two account passwordHash =>
      have verified := chained.concat
        (linked before operation.occasion.verificationId .emailVerified)
      rw [← List.singleton_append, ← List.append_assoc]
      exact verified.concat (linked (before.confirmed _ _) _ _)

end Operation

namespace Performance

theorem records (performance : Performance) :
    performance.operation.Records performance.before performance.events := by
  cases performance.ending with
  | refused _ _ _ events | passed _ _ _ events =>
      rw [events]
      exact .nothing
  | changed change ran after =>
      obtain ⟨events, records, recorded⟩ := change.records
      rwa [events_of_recorded after recorded]

end Performance

/-! ### In hand -/

namespace Registration

def afterAll (registration : Registration) (operations : List Operation) : Registration :=
  operations.foldl (fun registration operation => (operation.run registration).after) registration

def performances : Registration → List Operation → List Performance
  | _, [] => []
  | registration, operation :: rest =>
      ⟨registration, operation⟩ :: performances (operation.run registration).after rest

structure Traced (start : Registration) (performances : List Performance)
    (registration : Registration) : Prop where
  identity : registration.identity = start.identity
  recorded : registration.recorder.events = start.recorder.events ++ recordedIn performances
  chained : Chained none registration.recorder.events
  signed : ∀ performance ∈ performances, ∀ event ∈ performance.events,
    event.Signed start.identity performance.operation.occasion

theorem traced (start : Registration) (chained : Chained none start.recorder.events)
    (operations : List Operation) :
    start.Traced (start.performances operations) (start.afterAll operations) := by
  induction operations generalizing start with
  | nil =>
      exact
        { identity := rfl
          recorded := (List.append_nil _).symm
          chained
          signed := List.forall_mem_nil _ }
  | cons operation rest ih =>
      have records := (⟨start, operation⟩ : Performance).records
      have recorded : (operation.run start).after.recorder.events =
          start.recorder.events ++ (⟨start, operation⟩ : Performance).events :=
        (⟨start, operation⟩ : Performance).recorder_after
      have identity := operation.identity_run start
      have extended : Chained none (operation.run start).after.recorder.events := by
        rw [recorded]
        exact records.chained chained
      have later := ih (operation.run start).after extended
      refine
        { identity := later.identity.trans identity
          recorded := ?_
          chained := later.chained
          signed := ?_ }
      · refine later.recorded.trans ?_
        rw [recorded, List.append_assoc]
        rfl
      · rw [performances, List.forall_mem_cons, ← identity]
        refine ⟨?_, later.signed⟩
        rw [identity]
        exact records.signed

end Registration

/-! ### In storage -/

structure Step.Batch (step : Step) : Prop where
  short : step.committed.length ≤ 2
  chained : Chained none (step.committed.map StoredEvent.event)

namespace Step

variable {step : Step}

theorem batch_of_committed {id : RegistrationId} {first : Nat} {events : List Event}
    (committed : step.committed = Store.number id first events) (short : events.length ≤ 2)
    (chained : Chained none events) : step.Batch where
  short := by rwa [committed, Store.number_length]
  chained := by rwa [committed, Store.number_event]

theorem Deed.batch {policies : Policy → Prop} (deed : step.Deed policies) : step.Batch := by
  cases deed with
  | none records committed =>
      exact { short := by simp [committed], chained := by simp [committed, Chained] }
  | issued allowed issued absent sameId records committed =>
      obtain ⟨first, recorded, uncaused, _⟩ := Registration.recorded_of_issue issued
      rw [recorded] at committed
      exact batch_of_committed committed (by simp) ⟨uncaused, trivial⟩
  | operated allowed access found change sameId records committed =>
      obtain ⟨events, records, recorded⟩ := change.records
      rw [Registration.rehydrate_events, List.nil_append] at recorded
      rw [recorded] at committed
      exact batch_of_committed committed records.length_le (records.chained trivial)

/-- The cause of a committed event is the event that was committed with it. -/
theorem Batch.committed_eq (batch : step.Batch) {stored : StoredEvent}
    (member : stored ∈ step.committed) {cause : Uuid}
    (caused : stored.event.causationId = some cause) :
    ∃ first, step.committed = [first, stored] ∧ first.event.id = cause := by
  obtain ⟨short, chained⟩ := batch
  match committed : step.committed with
  | [] => simp [committed] at member
  | [only] =>
      rw [committed] at member chained
      rw [List.mem_singleton.mp member, chained.1] at caused
      cases caused
  | [first, second] =>
      rw [committed] at member chained
      rcases List.mem_pair.mp member with rfl | rfl
      · rw [chained.1] at caused
        cases caused
      · rw [chained.2.1] at caused
        exact ⟨first, rfl, Option.some.inj caused⟩
  | _ :: _ :: _ :: _ => simp [committed] at short

end Step

/-- Causes do not lead out of a commit. -/
structure Confined (steps : List Step) (store : Store) : Prop where
  batch : ∀ step ∈ steps, step.Batch
  caused : ∀ stored ∈ store.log, ∀ cause, stored.event.causationId = some cause →
    ∃ step ∈ steps, ∃ first, step.committed = [first, stored] ∧ first.event.id = cause
  /-- No other commit has an event with the identifier of the cause. -/
  confined : (store.log.map fun stored => stored.event.id).Nodup → ∀ step ∈ steps,
    ∀ stored ∈ step.committed, ∀ cause, stored.event.causationId = some cause →
      ∀ other ∈ store.log, other.event.id = cause → other ∈ step.committed

theorem Run.batch {policies : Policy → Prop} {steps : List Step} {store : Store}
    (run : Run (Access.IsStandard policies) steps store) : ∀ step ∈ steps, step.Batch := by
  intro step member
  obtain ⟨earlier, later, rfl⟩ := List.append_of_mem member
  obtain ⟨before, standard⟩ := run.split
  exact (Step.deed (.of_run before.isSound) standard).batch

theorem Run.confined {policies : Policy → Prop} {steps : List Step} {store : Store}
    (run : Run (Access.IsStandard policies) steps store) : Confined steps store := by
  have batch := run.batch
  refine { batch, caused := ?_, confined := ?_ }
  · intro stored member cause caused
    rw [run.log_eq, List.mem_flatMap] at member
    obtain ⟨step, inSteps, member⟩ := member
    exact ⟨step, inSteps, (batch step inSteps).committed_eq member caused⟩
  · intro distinct step inSteps stored member cause caused other inLog same
    obtain ⟨first, committed, isCause⟩ := (batch step inSteps).committed_eq member caused
    have firstHere : first ∈ step.committed := by simp [committed]
    have firstInLog : first ∈ store.log := by
      rw [run.log_eq]
      exact List.mem_flatMap_of_mem inSteps firstHere
    rw [List.inj_on_of_nodup_map distinct inLog firstInLog (same.trans isCause.symm)]
    exact firstHere

/-- As long as nobody takes them, the events of a registration that was issued or loaded are
one chain, signed by the operations that recorded them; and every commit of storage is a chain
of its own. -/
theorem Event.causes_traced :
    (∀ (policy : Policy) (occasion : Occasion) (id : RegistrationId) (email : String)
      (issued : Registration) (operations : List Operation),
      Registration.issue policy occasion id email = .ok issued →
        (∃ first, issued.recorder.events = [first] ∧ first.Signed issued.identity occasion) ∧
        issued.Traced (issued.performances operations) (issued.afterAll operations)) ∧
    (∀ (snapshot : Snapshot) (operations : List Operation),
      let loaded := Registration.rehydrate snapshot
      loaded.Traced (loaded.performances operations) (loaded.afterAll operations)) ∧
    ∀ (steps : List Step) (store : Store),
      Run (Access.IsStandard fun _ => True) steps store → Confined steps store := by
  refine ⟨?_, ?_, ?_⟩
  · intro policy occasion id email issued operations succeeded
    obtain ⟨first, recorded, uncaused, signed⟩ := Registration.recorded_of_issue succeeded
    have chained : Chained none issued.recorder.events := by
      rw [recorded]
      exact ⟨uncaused, trivial⟩
    exact ⟨⟨first, recorded, signed⟩, issued.traced chained operations⟩
  · intro snapshot operations
    exact (Registration.rehydrate snapshot).traced trivial operations
  · intro steps store run
    exact run.confined

/-! ### A sample -/

theorem Uuid.one_bounded : 1 < Nat.pow 2 128 := by decide

theorem Uuid.two_bounded : 2 < Nat.pow 2 128 := by decide

def Operation.atOnce : Operation :=
  { command := .complete "A" .clerk ⟨""⟩
    policy := .brief
    occasion :=
      { Occasion.uniform .epoch 0 with
        eventId := ⟨2, Uuid.two_bounded⟩
        verificationId := ⟨1, Uuid.one_bounded⟩ } }

def enrolment : List Access :=
  [.save .unanswered, .operate (.id ⟨.nil⟩) .atOnce]

theorem causes_traced_at_once :
    ((∃ first, Registration.unanswered.recorder.events = [first] ∧
        first.Signed Registration.unanswered.identity (.uniform .epoch 0)) ∧
      Registration.unanswered.Traced (Registration.unanswered.performances [.atOnce])
        (Registration.unanswered.afterAll [.atOnce]) ∧
      (Registration.unanswered.afterAll [.atOnce]).recorder.events.map Event.causationId =
        [none, some .nil, some ⟨1, by decide⟩]) ∧
    Run (Access.IsStandard fun _ => True) (trace .empty enrolment)
      (Store.empty.afterAll enrolment) ∧
    ((Store.empty.afterAll enrolment).log.map fun stored => stored.event.id).Nodup ∧
    (Store.empty.afterAll enrolment).log.map (fun stored => stored.event.causationId) =
      [none, none, some ⟨1, by decide⟩] ∧
    Confined (trace .empty enrolment) (Store.empty.afterAll enrolment) := by
  have succeeded : Registration.issue .brief (.uniform .epoch 0) ⟨.nil⟩ "a@b" =
      .ok .unanswered := rfl
  have run : Run (Access.IsStandard fun _ => True) (trace .empty enrolment)
      (Store.empty.afterAll enrolment) := by
    apply Run.start.append_trace enrolment
    intro access member
    rcases List.mem_cons.mp member with rfl | second
    · exact ⟨.brief, .uniform .epoch 0, _, "a@b", trivial, succeeded⟩
    · rw [List.mem_singleton.mp second]
      exact trivial
  obtain ⟨inHand, _, inStorage⟩ := Event.causes_traced
  obtain ⟨first, traced⟩ := inHand _ _ _ _ _ [.atOnce] succeeded
  exact ⟨⟨first, traced, by decide⟩, run, by decide, by decide, inStorage _ _ run⟩

end Enrolment
