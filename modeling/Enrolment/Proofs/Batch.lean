/-
A batch performs operations one after another on a live registration, inside a single unit of
work and whatever each of them answers. Storage ends up with the same registration as when each
operation is put to it by itself, although there every single one is loaded, run on a copy, and
kept or dropped. Only the version tells the difference, apart from the names of the events.
-/

import Enrolment.Proofs.Receipt
import Enrolment.Proofs.Renaming
import Enrolment.Proofs.Session

namespace Enrolment

/-! ### Batches -/

namespace Script

def results : Script → Registration → List (Except RegistrationError Unit)
  | .finish _, _ => []
  | .observe next, registration => (next registration).results registration
  | .perform operation next, registration =>
      let outcome := operation.run registration
      outcome.result :: (next outcome.result).results outcome.after
  | .takeEvents next, registration =>
      let (events, drained) := registration.commitEvents
      (next events).results drained

def ofOperations (operations : List Operation) : Script :=
  .sequence true (operations.map fun operation => .perform operation .finish)

theorem run_ofOperations_cons (operation : Operation) (rest : List Operation)
    (registration : Registration) :
    (ofOperations (operation :: rest)).run registration =
      (ofOperations rest).run (operation.run registration).after := by
  simp only [ofOperations, List.map_cons, sequence, andThen, run]
  cases (operation.run registration).result with
  | ok => rfl
  | error error => rfl

theorem results_ofOperations_cons (operation : Operation) (rest : List Operation)
    (registration : Registration) :
    (ofOperations (operation :: rest)).results registration =
      (operation.run registration).result ::
        (ofOperations rest).results (operation.run registration).after := by
  simp only [ofOperations, List.map_cons, sequence, andThen, results]
  cases (operation.run registration).result with
  | ok => rfl
  | error error => rfl

theorem result_ofOperations (operations : List Operation) (registration : Registration) :
    ((ofOperations operations).run registration).result = .ok () := by
  induction operations generalizing registration with
  | nil => rfl
  | cons operation rest ih =>
      rw [run_ofOperations_cons]
      exact ih _

end Script

def Mutation.batch (name : String) (operations : List Operation) : Mutation :=
  { name, script := .ofOperations operations }

theorem Mutation.run_batch (name : String) (operations : List Operation)
    (loaded : Registration) :
    (batch name operations).run loaded =
      if Changed loaded ((Script.ofOperations operations).run loaded).after then
        .commit ((Script.ofOperations operations).run loaded).after
      else .unchanged := by
  have succeeded := Script.result_ofOperations operations loaded
  simp only [run, batch, succeeded]
  rfl

/-! ### Replies -/

def Transition.result (transition : Transition) : Except RegistrationError Unit :=
  match transition.error? with
  | some error => .error error
  | none => .ok ()

def Store.reply? : Except RepositoryError Receipt → Option (Except RegistrationError Unit)
  | .ok receipt => some (receipt.result.map fun _ => ())
  | .error (.rejected error) => some (.error error)
  | .error _ => none

theorem Store.reply?_answer (stored : StoredRegistration) (decision : Transition) :
    reply? (stored.answer decision) = some decision.result := by
  cases decision with
  | commit | commitAndFail | unchanged | reject => rfl

def Step.reply? (step : Step) : Option (Except RegistrationError Unit) :=
  match step.access with
  | .save _ | .find _ => none
  | .operate key operation =>
      Store.reply? (Store.mutateBy key (.ofOperation operation) step.before).1
  | .mutate key mutation => Store.reply? (Store.mutateBy key mutation step.before).1

/-! ### Single operations -/

namespace Exchange

def outcome (exchange : Exchange) : Outcome :=
  exchange.operation.run (.rehydrate exchange.before)

/-- Nothing that an operation did is lost when its outcome is kept or dropped. -/
theorem keeps_outcome (exchange : Exchange) :
    exchange.after = exchange.outcome.after.toSnapshot ∧
      exchange.events = exchange.outcome.after.recorder.events ∧
      exchange.transition.result = exchange.outcome.result := by
  have decision : exchange.operation.Decision (.rehydrate exchange.before) exchange.transition :=
    exchange.operation.decision _
  unfold after events outcome
  generalize exchange.transition = transition at decision ⊢
  cases decision with
  | rejected cause ran => rw [ran]; exact ⟨rfl, rfl, rfl⟩
  | unchanged idle ran => rw [ran]; exact ⟨rfl, rfl, rfl⟩
  | committed ran recorded => rw [ran]; exact ⟨rfl, rfl, rfl⟩
  | counted ran pending failure notLast recorded => rw [ran]; exact ⟨rfl, rfl, rfl⟩
  | ended ran pending kind recorded => rw [ran]; exact ⟨rfl, rfl, rfl⟩

theorem progress_le (exchange : Exchange) :
    (Registration.rehydrate exchange.before).progress + exchange.transition.isCommit.toNat ≤
      exchange.outcome.after.progress := by
  cases kept : exchange.transition.committed? with
  | none =>
      obtain ⟨after, events⟩ := kept_of_not_committed kept
      obtain ⟨state, recorded, _⟩ := exchange.keeps_outcome
      rw [after] at state
      rw [events] at recorded
      simp only [Transition.isCommit, kept, Registration.progress, Recorder.size, ← recorded,
        ← state, Registration.rehydrate_events, Option.isSome_none, Bool.toNat_false]
      exact Nat.le_refl _
  | some registration =>
      have change := (Operation.change_of_committed kept).2
      simp only [Transition.isCommit, kept, Option.isSome_some, Bool.toNat_true]
      exact change.progress_lt

end Exchange

theorem Operation.Alike.progress {operation other : Operation} (alike : operation.Alike other)
    (live : Registration) :
    (operation.run live).after.progress + (Registration.rehydrate live.toSnapshot).progress =
      live.progress + (other.run (.rehydrate live.toSnapshot)).after.progress := by
  obtain ⟨_, state, recorded⟩ := alike.continues live
  have size := congrArg List.length recorded
  simp only [List.length_map, List.length_append] at size
  simp only [Registration.progress, Recorder.size, size, state, Registration.rehydrate_events,
    List.length_nil]
  change _ + (_ + if live.status = .pending then live.attempts.toNat else 256) = _
  omega

/-! ### Exchanges as steps -/

namespace Exchange

def step (exchange : Exchange) (store : Store) : Step :=
  ⟨store, .operate (.id exchange.before.id) exchange.operation⟩

theorem isAbout (exchange : Exchange) : exchange.transition.IsAbout exchange.before.id := by
  intro registration kept
  exact Mutation.id_of_committed kept

variable {exchange : Exchange} {store : Store} {version : Nat}
  (found : store.records.get? exchange.before.id = some ⟨exchange.before, version⟩)

include found

theorem mutateBy_of_found :
    Store.mutateBy (.id exchange.before.id) (.ofOperation exchange.operation) store =
      ((⟨exchange.before, version⟩ : StoredRegistration).answer exchange.transition,
        store.settle ⟨exchange.before, version⟩ exchange.transition) :=
  Store.mutateBy_of_found rfl found

theorem reply?_step :
    (exchange.step store).reply? = some exchange.outcome.result := by
  change Store.reply? (Store.mutateBy (.id exchange.before.id) (.ofOperation exchange.operation)
    store).1 = _
  rw [mutateBy_of_found found, Store.reply?_answer, exchange.keeps_outcome.2.2]

theorem commits_step :
    (exchange.step store).commits exchange.before.id = exchange.transition.isCommit := by
  have target : (exchange.step store).target? = some exchange.before.id := rfl
  have held : (exchange.step store).exchange? exchange.before.id = some exchange :=
    Step.exchange?_of_operation rfl target found
  simp [Step.commits, target, Step.transition?_of_exchange? held]

theorem countP_step (steps : List Step) :
    (exchange.step store :: steps).countP (·.commits exchange.before.id) =
      exchange.transition.isCommit.toNat + steps.countP (·.commits exchange.before.id) := by
  rw [List.countP_cons, commits_step found, Nat.add_comm]
  cases exchange.transition.isCommit with
  | false => rfl
  | true => rfl

theorem after_step :
    (exchange.step store).after = store.settle ⟨exchange.before, version⟩ exchange.transition :=
  congrArg Prod.snd (mutateBy_of_found found)

theorem get?_step :
    (exchange.step store).after.records.get? exchange.before.id =
      some ⟨exchange.after, version + exchange.transition.isCommit.toNat⟩ := by
  rw [after_step found, Store.get?_settle exchange.isAbout found, after, Transition.isCommit]
  cases exchange.transition.committed? with
  | none => rfl
  | some registration => rfl

theorem log_step :
    (exchange.step store).after.log =
      store.log ++ Store.number exchange.before.id (store.log.length + 1) exchange.events := by
  rw [after_step found, Store.log_settle exchange.isAbout]
  rfl

end Exchange

/-! ### In place and one by one -/

def Access.eachBy (id : RegistrationId) (operations : List Operation) : List Access :=
  operations.map fun operation => .operate (.id id) operation

/-- What a script makes of a live registration, beside what steps of storage make of the
stored one. -/
structure InStep (script : Script) (live : Registration) (store : Store) (version : Nat)
    (steps : List Step) (after : Store) (events : List Event) : Prop where
  replies : steps.map Step.reply? = (script.results live).map some
  stored : after.records.get? live.id =
    some ⟨(script.run live).after.toSnapshot, version + steps.countP (·.commits live.id)⟩
  log : after.log = store.log ++ Store.number live.id (store.log.length + 1) events
  recorded : (script.run live).after.recorder.events.map Event.unnamed =
    (live.recorder.events ++ events).map Event.unnamed
  progress : live.progress + steps.countP (·.commits live.id) ≤
    (script.run live).after.progress
  quiet : steps.countP (·.commits live.id) = 0 →
    (script.run live).after.toSnapshot = live.toSnapshot ∧ events = []

theorem InStep.start {live : Registration} {store : Store} {version : Nat}
    (found : store.records.get? live.id = some ⟨live.toSnapshot, version⟩) :
    InStep (.ofOperations []) live store version [] store [] := by
  constructor
  · rfl
  · exact found
  · exact (List.append_nil _).symm
  · rw [List.append_nil]
    rfl
  · exact Nat.le_refl _
  · intro _
    exact ⟨rfl, rfl⟩

theorem InStep.cons {operation other : Operation} (alike : operation.Alike other)
    {rest : List Operation} {live : Registration} {store : Store} {version : Nat}
    {exchange : Exchange} (exchanged : exchange = ⟨live.toSnapshot, other⟩)
    (found : store.records.get? live.id = some ⟨live.toSnapshot, version⟩)
    {steps : List Step} {after : Store} {events : List Event}
    (later : InStep (.ofOperations rest) (operation.run live).after (exchange.step store).after
      (version + exchange.transition.isCommit.toNat) steps after events) :
    InStep (.ofOperations (operation :: rest)) live store version
      (exchange.step store :: steps) after (exchange.events ++ events) := by
  have sameId := operation.id_run live
  have beforeId : exchange.before.id = live.id := by rw [exchanged]
  have foundBefore : store.records.get? exchange.before.id =
      some ⟨exchange.before, version⟩ := by rw [exchanged]; exact found
  have outcome : exchange.outcome = other.run (.rehydrate live.toSnapshot) := by
    rw [exchanged]; rfl
  obtain ⟨result, state, recorded⟩ := alike.continues live
  have progress := alike.progress live
  rw [← outcome] at result state recorded progress
  obtain ⟨keptState, keptEvents, _⟩ := exchange.keeps_outcome
  have counted := Exchange.countP_step foundBefore steps
  rw [beforeId] at counted
  obtain ⟨replies, stored, log, told, further, quiet⟩ := later
  rw [sameId] at stored log further quiet
  constructor
  · rw [List.map_cons, replies, Exchange.reply?_step foundBefore,
      Script.results_ofOperations_cons, List.map_cons, result]
  · rw [Script.run_ofOperations_cons, stored, counted, Nat.add_assoc]
  · rw [log, Exchange.log_step foundBefore, beforeId, Store.number_append, List.length_append,
      Store.number_length, List.append_assoc, Nat.add_right_comm]
  · rw [Script.run_ofOperations_cons, told, List.map_append, recorded, keptEvents]
    simp only [List.map_append, List.append_assoc]
  · have grows := exchange.progress_le
    have loaded : exchange.before = live.toSnapshot := by rw [exchanged]
    rw [loaded] at grows
    rw [Script.run_ofOperations_cons, counted]
    omega
  · intro still
    rw [counted] at still
    obtain ⟨notCommit, noSteps⟩ := Nat.add_eq_zero_iff.mp still
    obtain ⟨last, none⟩ := quiet noSteps
    have dropped : exchange.transition.committed? = Option.none := by
      simpa [Transition.isCommit] using notCommit
    obtain ⟨unmoved, unheard⟩ := Exchange.kept_of_not_committed dropped
    rw [Script.run_ofOperations_cons, last, none, unheard, state, ← keptState, unmoved,
      exchanged]
    exact ⟨rfl, rfl⟩

theorem inStep_of_alike {inPlace oneByOne : List Operation}
    (alike : List.Forall₂ Operation.Alike inPlace oneByOne) {live : Registration}
    {store : Store} {version : Nat}
    (found : store.records.get? live.id = some ⟨live.toSnapshot, version⟩) :
    ∃ events, InStep (.ofOperations inPlace) live store version
      (trace store (Access.eachBy live.id oneByOne))
      (store.afterAll (Access.eachBy live.id oneByOne)) events := by
  -- Each step starts from the registration that the operations before it left, live or stored.
  induction alike generalizing live store version with
  | nil => exact ⟨_, .start found⟩
  | @cons operation other rest others first _ ih =>
      have sameId := operation.id_run live
      have state : (operation.run live).after.toSnapshot =
          (⟨live.toSnapshot, other⟩ : Exchange).after :=
        (first.continues live).state.trans
          (⟨live.toSnapshot, other⟩ : Exchange).keeps_outcome.1.symm
      have next : ((⟨live.toSnapshot, other⟩ : Exchange).step store).after.records.get? live.id =
          some ⟨(⟨live.toSnapshot, other⟩ : Exchange).after, _⟩ := Exchange.get?_step found
      rw [← state, ← sameId] at next
      obtain ⟨events, later⟩ := ih next
      rw [sameId] at later
      exact ⟨_, .cons first rfl found later⟩

/-! ### The batch -/

/-- Storage after a batch and after the same operations one by one: the state is the same, the
version has gone up once in place of once for each change, and the new events are the same. -/
structure Store.Agree (store : Store) (id : RegistrationId) (version changes : Nat)
    (together apart : Store) : Prop where
  stored : ∃ snapshot,
    together.records.get? id = some ⟨snapshot, version + min changes 1⟩ ∧
    apart.records.get? id = some ⟨snapshot, version + changes⟩
  log : ∃ events renamed : List Event,
    together.log = store.log ++ number id (store.log.length + 1) events ∧
    apart.log = store.log ++ number id (store.log.length + 1) renamed ∧
    events.map Event.unnamed = renamed.map Event.unnamed

/-- Operations on one live registration do what they do when each is a unit of work. -/
theorem Store.batch_agrees (store : Store) (registration : Registration) {version : Nat}
    (drained : registration.recorder = .empty)
    (found : store.records.get? registration.id = some ⟨registration.toSnapshot, version⟩)
    {inPlace oneByOne : List Operation}
    (alike : List.Forall₂ Operation.Alike inPlace oneByOne) (name : String) :
    ∃ receipt together,
      mutateBy (.id registration.id) (.batch name inPlace) store = (.ok receipt, together) ∧
      receipt.failure = none ∧
      (trace store (Access.eachBy registration.id oneByOne)).map Step.reply? =
        ((Mutation.batch name inPlace).script.results registration).map some ∧
      store.Agree registration.id version
        ((trace store (Access.eachBy registration.id oneByOne)).countP
          (·.commits registration.id))
        together (store.afterAll (Access.eachBy registration.id oneByOne)) := by
  generalize put : trace store (Access.eachBy registration.id oneByOne) = steps
  obtain ⟨events, replies, stored, log, recorded, progress, quiet⟩ :
      ∃ events, InStep (.ofOperations inPlace) registration store version steps
        (store.afterAll (Access.eachBy registration.id oneByOne)) events := by
    rw [← put]
    exact inStep_of_alike alike found
  have sameId := (Script.ofOperations inPlace).id_run registration
  have loaded := Registration.rehydrate_of_drained drained
  have called : mutateBy (.id registration.id) (.batch name inPlace) store = _ :=
    mutateBy_of_found rfl found
  rw [StoredRegistration.decision, loaded, Mutation.run_batch] at called
  generalize ((Script.ofOperations inPlace).run registration).after = last
    at stored recorded progress quiet sameId called
  by_cases changes : steps.countP (·.commits registration.id) = 0
  · obtain ⟨same, rfl⟩ := quiet changes
    have size := congrArg List.length recorded
    rw [List.append_nil, List.length_map, List.length_map] at size
    have notChanged : ¬ Mutation.Changed registration last :=
      not_or.mpr ⟨not_not_intro same, not_not_intro size⟩
    rw [if_neg notChanged] at called
    rw [same] at stored
    refine ⟨_, _, called, rfl, replies, ⟨_, ?_, stored⟩, [], [], ?_, log, rfl⟩
    · rw [changes]
      exact found
    · exact (List.append_nil _).symm
  · have changed : Mutation.Changed registration last :=
      Registration.changed_of_progress (by omega)
    have one : min (steps.countP (·.commits registration.id)) 1 = 1 := by omega
    rw [if_pos changed] at called
    rw [drained] at recorded
    refine ⟨_, _, called, rfl, replies, ⟨_, ?_, stored⟩, last.recorder.events, events, ?_, log,
      recorded⟩
    · rw [one]
      exact (get?_commit _ _ _ _).trans (if_pos sameId.symm)
    · rw [← sameId]
      rfl

/-! ### A sample -/

def Store.unanswered : Store :=
  Store.empty.afterAll [.save .unanswered]

def Operation.trial (eventId : Uuid) : List Operation :=
  [(brief (.verify "B")).renamed eventId .nil, (brief (.check "A")).renamed eventId .nil,
    (brief (.complete "A" .clerk ⟨""⟩)).renamed eventId .nil]

theorem batch_agrees_on_trial :
    List.Forall₂ Operation.Alike (Operation.trial .nil) (Operation.trial ⟨4, by decide⟩) ∧
      (trace .unanswered (Access.eachBy ⟨.nil⟩ (Operation.trial ⟨4, by decide⟩))).map Step.reply? =
        [some (.error (.codeMismatch 1)), some (.error .verifyFirst), some (.ok ())] ∧
      Store.unanswered.Agree ⟨.nil⟩ 1 2
        (Store.mutateBy (.id ⟨.nil⟩) (.batch "trial" (Operation.trial .nil)) .unanswered).2
        (Store.unanswered.afterAll (Access.eachBy ⟨.nil⟩ (Operation.trial ⟨4, by decide⟩))) := by
  have alike : List.Forall₂ Operation.Alike (Operation.trial .nil)
      (Operation.trial ⟨4, by decide⟩) :=
    .cons ⟨_, _, rfl⟩ (.cons ⟨_, _, rfl⟩ (.cons ⟨_, _, rfl⟩ .nil))
  obtain ⟨receipt, together, called, _, replies, agree⟩ :=
    Store.unanswered.batch_agrees (.rehydrate Registration.unanswered.toSnapshot) rfl rfl alike
      "trial"
  have reached : together = _ := (congrArg Prod.snd called).symm
  rw [reached] at agree
  exact ⟨alike, replies.trans rfl, agree⟩

end Enrolment
