/-
The life of one registration in a run. In a standard run registrations are saved as
they were issued and then changed by single operations only. Most steps of such a run
are quiet about a given registration; the others issue it or operate on it.
-/

import Enrolment.Proofs.Consistency
import Enrolment.Proofs.Decision

namespace Enrolment

/-! ### The log -/

theorem Store.filter_number (id other : RegistrationId) (first : Nat) (events : List Event) :
    (number id first events).filter (·.registrationId = other) =
      if id = other then number id first events else [] := by
  split
  · next same =>
      refine List.filter_eq_self.mpr fun stored member => ?_
      rw [(mem_number member).1, decide_eq_true_eq]
      exact same
  · next different =>
      refine List.filter_eq_nil_iff.mpr fun stored member => ?_
      rw [(mem_number member).1, decide_eq_true_eq]
      exact different

namespace Step

variable {step : Step}

def told (step : Step) (id : RegistrationId) : List Event :=
  (step.committed.filter (·.registrationId = id)).map StoredEvent.event

theorem committed_of_log {events : List StoredEvent}
    (log : step.after.log = step.before.log ++ events) : step.committed = events := by
  rw [committed, log, List.drop_left]

theorem log_after (step : Step) : step.after.log = step.before.log ++ step.committed := by
  have grows : ∃ events, step.after.log = step.before.log ++ events := by
    have effect := step.effect
    generalize step.after = after at effect
    cases effect with
    | none => exact ⟨[], (List.append_nil _).symm⟩
    | saved | committed => exact ⟨_, rfl⟩
  obtain ⟨events, log⟩ := grows
  rw [committed_of_log log, log]

theorem told_of_number {id : RegistrationId} {first : Nat} {events : List Event}
    (committed : step.committed = Store.number id first events) (other : RegistrationId) :
    step.told other = if id = other then events else [] := by
  rw [told, committed, Store.filter_number]
  split
  · exact Store.number_event id first events
  · rfl

theorem told_self {id : RegistrationId} {first : Nat} {events : List Event}
    (committed : step.committed = Store.number id first events) : step.told id = events :=
  (told_of_number committed id).trans (if_pos rfl)

end Step

def told (id : RegistrationId) (steps : List Step) : List Event :=
  steps.flatMap (·.told id)

@[simp] theorem told_append (id : RegistrationId) (earlier later : List Step) :
    told id (earlier ++ later) = told id earlier ++ told id later :=
  List.flatMap_append

@[simp] theorem told_cons (id : RegistrationId) (step : Step) (later : List Step) :
    told id (step :: later) = step.told id ++ told id later :=
  List.flatMap_cons

@[simp] theorem told_nil (id : RegistrationId) : told id [] = [] := rfl

namespace Run

variable {allowed : Access → Prop} {steps : List Step} {store : Store}

theorem log_eq (run : Run allowed steps store) : store.log = steps.flatMap Step.committed := by
  induction run with
  | start => rfl
  | @next steps store earlier access permitted ih =>
      rw [List.flatMap_append, List.flatMap_singleton, ← ih]
      exact (⟨store, access⟩ : Step).log_after

theorem eventsOf_eq (run : Run allowed steps store) (id : RegistrationId) :
    (store.eventsOf id).map StoredEvent.event = told id steps := by
  rw [Store.eventsOf, run.log_eq, List.filter_flatMap, List.map_flatMap]
  rfl

/-- The place of an event in the log is a place in what one of the steps committed. -/
theorem log_split (run : Run allowed steps store) {front back : List StoredEvent}
    {stored : StoredEvent} (log : store.log = front ++ stored :: back) :
    ∃ earlier step later inFront behind, steps = earlier ++ step :: later ∧
      step.committed = inFront ++ stored :: behind ∧ front = step.before.log ++ inFront := by
  induction run generalizing back with
  | start => exact absurd log.symm (List.append_ne_nil_of_right_ne_nil _ (List.cons_ne_nil _ _))
  | @next steps store earlier access permitted ih =>
      have grown : store.log ++ (⟨store, access⟩ : Step).committed = front ++ stored :: back :=
        ((⟨store, access⟩ : Step).log_after).symm.trans log
      -- The event is one of the last step, or it was in the log before.
      rcases List.append_eq_append_iff.mp grown with
        ⟨inFront, rfl, committed⟩ | ⟨rest, before, committed⟩
      · exact ⟨steps, ⟨store, access⟩, [], inFront, back, rfl, committed, rfl⟩
      · cases rest with
        | nil =>
            rw [List.append_nil] at before
            exact ⟨steps, ⟨store, access⟩, [], [], back, rfl, committed.symm, by simp [before]⟩
        | cons first rest =>
            obtain ⟨rfl, _⟩ := List.cons_eq_cons.mp committed
            obtain ⟨before, step, after, inFront, behind, rfl, found, place⟩ := ih before
            exact ⟨before, step, after ++ [⟨store, access⟩], inFront, behind, by simp, found,
              place⟩

end Run

/-! ### Standard accesses -/

/-- Accesses in which registrations are saved as they were issued, and changed by one
operation at a time, under policies that are allowed. -/
def Access.IsStandard (policies : Policy → Prop) : Access → Prop
  | .save registration => ∃ policy occasion id email, policies policy ∧
      Registration.issue policy occasion id email = .ok registration
  | .find _ => True
  | .operate _ operation => policies operation.policy
  | .mutate _ _ => False

theorem Access.IsStandard.mono {policies stronger : Policy → Prop}
    (weaker : ∀ policy, stronger policy → policies policy) {access : Access}
    (standard : access.IsStandard stronger) : access.IsStandard policies := by
  cases access with
  | save registration =>
      obtain ⟨policy, occasion, id, email, allowed, issued⟩ := standard
      exact ⟨policy, occasion, id, email, weaker policy allowed, issued⟩
  | find => trivial
  | operate key operation => exact weaker operation.policy standard
  | mutate => exact standard

theorem Access.IsStandard.isSound {policies : Policy → Prop} {access : Access}
    (standard : access.IsStandard policies) : access.IsSound := by
  cases access with
  | save registration =>
      obtain ⟨policy, occasion, id, email, _, issued⟩ := standard
      exact .issue issued
  | find | operate | mutate => trivial

theorem Run.isSound {policies : Policy → Prop} {steps : List Step} {store : Store}
    (run : Run (Access.IsStandard policies) steps store) : Run Access.IsSound steps store :=
  run.mono fun _ standard => standard.isSound

theorem Registration.id_of_issue {policy : Policy} {occasion : Occasion} {id : RegistrationId}
    {email : String} {registration : Registration}
    (succeeded : issue policy occasion id email = .ok registration) : registration.id = id := by
  obtain ⟨email, code, unused, codeExpiresAt, resendTimeout, _, _, _, rfl⟩ :=
    issue_eq_ok succeeded
  rfl

inductive Step.Deed (policies : Policy → Prop) (step : Step) : Prop
  | none (records : step.after.records = step.before.records) (committed : step.committed = [])
      (notCommitted : ∀ id, step.commits id = false)
  | issued {policy : Policy} {occasion : Occasion} {id : RegistrationId} {email : String}
      {registration : Registration} (allowed : policies policy)
      (issued : Registration.issue policy occasion id email = .ok registration)
      (absent : step.before.records.get? id = Option.none) (sameId : registration.id = id)
      (records : step.after.records = (step.before.commit registration 1).records)
      (committed : step.committed = Store.number id (step.before.log.length + 1)
        registration.recorder.events)
      (notCommitted : ∀ id, step.commits id = false)
  | operated {id : RegistrationId} {stored : StoredRegistration} {operation : Operation}
      {outcome : Outcome} (allowed : policies operation.policy)
      (access : step.access.operation? = some operation)
      (found : step.before.records.get? id = some stored)
      (change : operation.Change (.rehydrate stored.snapshot) outcome)
      (sameId : outcome.after.id = id)
      (records : step.after.records =
        (step.before.commit outcome.after (stored.version + 1)).records)
      (committed : step.committed = Store.number id (step.before.log.length + 1)
        outcome.after.recorder.events)
      (commits : ∀ other, step.commits other = decide (other = id))

theorem Step.deed {policies : Policy → Prop} {steps : List Step} {step : Step}
    (grounded : Grounded steps step.before) (standard : step.access.IsStandard policies) :
    step.Deed policies := by
  have effect := step.effect
  generalize reached : step.after = after at effect
  cases effect with
  | none notSaved notCommitted =>
      exact .none (by rw [reached]) (committed_of_log (by rw [reached, List.append_nil]))
        notCommitted
  | saved access absent =>
      rw [access] at standard
      obtain ⟨policy, occasion, id, email, allowed, issued⟩ := standard
      have sameId := Registration.id_of_issue issued
      rw [sameId] at absent
      exact .issued allowed issued absent sameId (by rw [reached])
        (committed_of_log (by rw [reached, ← sameId]; rfl)) (commits_of_save access)
  | @committed id stored mutation registration unit target found kept =>
      have sameId : registration.id = id := grounded.id_of_committed found kept
      have commits := commits_of_kept unit target found kept
      cases access : step.access with
      | save | find => rw [access] at unit; cases unit
      | mutate key mutation => rw [access] at standard; exact False.elim standard
      | operate key operation =>
          rw [access] at unit standard
          obtain rfl : Mutation.ofOperation operation = mutation := Option.some.inj unit
          obtain ⟨rfl, change⟩ := Operation.change_of_committed kept
          exact .operated standard (by rw [access]; rfl) found change sameId
            (by rw [reached]) (committed_of_log (by rw [reached, ← sameId]; rfl)) commits

/-! ### Lives -/

/-- The steps of a standard run as one registration sees them, and the state that they
lead it to. -/
inductive Life (policies : Policy → Prop) (id : RegistrationId) : List Step → Snapshot → Prop
  | issued {earlier : List Step} {step : Step} {policy : Policy} {occasion : Occasion}
      {email : String} {registration : Registration} (unheard : told id earlier = [])
      (allowed : policies policy)
      (issued : Registration.issue policy occasion id email = .ok registration) {first : Nat}
      (committed : step.committed = Store.number id first registration.recorder.events) :
      Life policies id (earlier ++ [step]) registration.toSnapshot
  | quiet {earlier : List Step} {step : Step} {snapshot : Snapshot}
      (life : Life policies id earlier snapshot) (tells : step.told id = [])
      (notCommitted : step.commits id = false) : Life policies id (earlier ++ [step]) snapshot
  | operated {earlier : List Step} {step : Step} {stored : StoredRegistration}
      {operation : Operation} {outcome : Outcome}
      (life : Life policies id earlier stored.snapshot) (allowed : policies operation.policy)
      (access : step.access.operation? = some operation)
      (found : step.before.records.get? id = some stored)
      (change : operation.Change (.rehydrate stored.snapshot) outcome)
      {first : Nat}
      (committed : step.committed = Store.number id first outcome.after.recorder.events)
      (commits : step.commits id = true) :
      Life policies id (earlier ++ [step]) outcome.after.toSnapshot

theorem Grounded.told_of_absent {steps : List Step} {store : Store} {allowed : Access → Prop}
    (grounded : Grounded steps store) (run : Run allowed steps store) {id : RegistrationId}
    (absent : store.records.get? id = none) : told id steps = [] := by
  rw [← run.eventsOf_eq, List.map_eq_nil_iff, Store.eventsOf, List.filter_eq_nil_iff]
  intro stored member same
  obtain ⟨_, record, found⟩ := grounded.owned stored member
  rw [of_decide_eq_true same, absent] at found
  cases found

theorem Run.life {policies : Policy → Prop} {steps : List Step} {store : Store}
    (run : Run (Access.IsStandard policies) steps store) {id : RegistrationId}
    {record : StoredRegistration} (found : store.records.get? id = some record) :
    Life policies id steps record.snapshot := by
  induction run generalizing record with
  | start => cases found
  | @next steps store earlier access permitted ih =>
      have grounded : Grounded steps store := .of_run earlier.isSound
      change (⟨store, access⟩ : Step).after.records.get? id = some record at found
      have deed : Step.Deed policies ⟨store, access⟩ := Step.deed grounded permitted
      cases deed with
      | none records committed notCommitted =>
          rw [records] at found
          exact .quiet (ih found) (by rw [Step.told, committed]; rfl) (notCommitted id)
      | @issued _ _ target _ _ allowed issued absent sameId records committed notCommitted =>
          rw [records, Store.get?_commit, sameId] at found
          split at found
          · next same =>
              subst same
              rw [← Option.some.inj found]
              exact .issued (grounded.told_of_absent earlier absent) allowed issued committed
          · next different =>
              have tells := Step.told_of_number committed id
              rw [if_neg (Ne.symm different)] at tells
              exact .quiet (ih found) tells (notCommitted id)
      | @operated target _ _ _ allowed access before change sameId records committed commits =>
          have commitsId := commits id
          rw [records, Store.get?_commit, sameId] at found
          split at found
          · next same =>
              subst same
              rw [decide_eq_true rfl] at commitsId
              rw [← Option.some.inj found]
              exact .operated (ih before) allowed access before change committed commitsId
          · next different =>
              have tells := Step.told_of_number committed id
              rw [if_neg (Ne.symm different)] at tells
              rw [decide_eq_false different] at commitsId
              exact .quiet (ih found) tells commitsId

/-! ### A sample -/

def Policy.brief : Policy :=
  { Policy.defaults with codeLength := 1, maxAttempts := 2 }

def Occasion.uniform (now : Time.Instant) (byte : UInt8) : Occasion :=
  { now, correlationId := .nil, eventId := .nil, verificationId := .nil
    entropy := [Vector.replicate 32 byte] }

def Operation.brief (command : Command) : Operation :=
  { command, policy := .brief, occasion := .uniform .epoch 0 }

def Account.clerk : Account :=
  .staff { firstName := "a", lastName := "b", middleName := none, position := "c" }

def Registration.unanswered : Registration :=
  issued (.uniform .epoch 0) ⟨.nil⟩ ⟨"a@b"⟩ ⟨"A"⟩ ⟨600, 0, by decide⟩ ⟨60, 0, by decide⟩

/-- A registration fails, gets a new code, and is completed with it at once, after one
more wrong answer. -/
def recovery : List Access :=
  let early := Occasion.uniform .epoch 0
  let late := Occasion.uniform ⟨100, 0, by decide⟩ 1
  let operate (command : Command) (occasion : Occasion) : Access :=
    .operate (.email ⟨"a@b"⟩) { command, policy := .brief, occasion }
  let account : Account :=
    .student
      { barcode := "1", firstName := "a", lastName := "b", middleName := none, groupId := .nil }
  [.save (.issued early ⟨.nil⟩ ⟨"a@b"⟩ ⟨"A"⟩ ⟨600, 0, by decide⟩ ⟨60, 0, by decide⟩),
    operate (.verify "B") early, operate (.verify "C") early, operate .resend late,
    operate (.verify "A") late, operate (.complete "B" account ⟨""⟩) late]

theorem run_recovery : Run (Access.IsStandard (· = .brief)) (trace .empty recovery)
    (Store.empty.afterAll recovery) := by
  refine Run.start.append_trace recovery ?_
  intro access member
  simp only [recovery, List.mem_cons, List.not_mem_nil, or_false] at member
  rcases member with rfl | rfl | rfl | rfl | rfl | rfl
  · exact ⟨.brief, .uniform .epoch 0, _, "a@b", rfl, rfl⟩
  all_goals exact rfl

end Enrolment
