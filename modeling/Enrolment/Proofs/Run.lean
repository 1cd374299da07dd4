/-
Runs of storage in memory. A run is a list of accesses made one after another
on the empty store; each step keeps the store that it started from, so that
everything a run did can be read off its steps. An access has one of three effects:
none, a new registration, or a new state of a stored one.
-/

import Enrolment.Proofs.Identity
import Enrolment.Store

namespace Enrolment

inductive Key where
  | id (id : RegistrationId)
  | email (email : Email)

/-- An access to storage. An operation is a unit of work by itself. -/
inductive Access where
  | save (registration : Registration)
  | find (key : Key)
  | operate (key : Key) (operation : Operation)
  | mutate (key : Key) (mutation : Mutation)

namespace Store

def mutateBy (key : Key) (mutation : Mutation) : StorageCall Store Receipt :=
  match key with
  | .id id => repository.mutateById id mutation
  | .email email => repository.mutateByEmail email mutation

def findBy (key : Key) : StorageCall Store Registration :=
  match key with
  | .id id => repository.findById id
  | .email email => repository.findByEmail email

def locate? (store : Store) : Key → Option RegistrationId
  | .id id => some id
  | .email email => store.addresses.get? email

end Store

namespace Access

def next : Access → Store → Store
  | .save registration, store => (Store.repository.save registration store).2
  | .find key, store => (Store.findBy key store).2
  | .operate key operation, store => (Store.mutateBy key (.ofOperation operation) store).2
  | .mutate key mutation, store => (Store.mutateBy key mutation store).2

def key? : Access → Option Key
  | .save _ => none
  | .find key | .operate key _ | .mutate key _ => some key

def mutation? : Access → Option Mutation
  | .save _ | .find _ => none
  | .operate _ operation => some (.ofOperation operation)
  | .mutate _ mutation => some mutation

def operation? : Access → Option Operation
  | .operate _ operation => some operation
  | .save _ | .find _ | .mutate _ _ => none

end Access

/-! ### Steps -/

structure Step where
  before : Store
  access : Access

namespace Step

def after (step : Step) : Store :=
  step.access.next step.before

def committed (step : Step) : List StoredEvent :=
  step.after.log.drop step.before.log.length

def saved? (step : Step) : Option Registration :=
  match step.access with
  | .save registration =>
      if step.before.records.get? registration.id = none then some registration else none
  | .find _ | .operate _ _ | .mutate _ _ => none

def target? (step : Step) : Option RegistrationId :=
  step.access.key?.bind step.before.locate?

/-- What the unit of work decided, if it was run at all. -/
def transition? (step : Step) : Option Transition := do
  let mutation ← step.access.mutation?
  let stored ← step.before.records.get? (← step.target?)
  return mutation.run (.rehydrate stored.snapshot)

def commits (step : Step) (id : RegistrationId) : Bool :=
  step.target? = some id ∧ step.transition?.any Transition.isCommit

end Step

/-! ### Runs -/

/-- The steps of accesses that are allowed, and the store that they lead to. -/
inductive Run (allowed : Access → Prop) : List Step → Store → Prop
  | start : Run allowed [] .empty
  | next {steps : List Step} {store : Store} (earlier : Run allowed steps store) (access : Access)
      (permitted : allowed access) : Run allowed (steps ++ [⟨store, access⟩]) (access.next store)

namespace Run

variable {allowed : Access → Prop} {store : Store}

theorem mono {stronger : Access → Prop} (weaker : ∀ access, stronger access → allowed access)
    {steps : List Step} (run : Run stronger steps store) : Run allowed steps store := by
  induction run with
  | start => exact .start
  | next earlier access permitted ih => exact .next ih access (weaker access permitted)

/-- Each step of a run starts from the store that the steps before it lead to. -/
theorem split {earlier later : List Step} {step : Step}
    (run : Run allowed (earlier ++ step :: later) store) :
    Run allowed earlier step.before ∧ allowed step.access := by
  generalize whole : earlier ++ step :: later = steps at run
  induction run generalizing later with
  | start => exact absurd whole (by simp)
  | @next steps store before access permitted ih =>
      rcases List.eq_nil_or_concat later with rfl | ⟨front, last, rfl⟩
      · obtain ⟨rfl, same⟩ := List.append_inj' whole rfl
        rw [List.singleton_inj.mp same]
        exact ⟨before, permitted⟩
      · have shifted : (earlier ++ step :: front) ++ [last] = steps ++ [⟨store, access⟩] := by
          simpa using whole
        exact ih (List.append_inj' shifted rfl).1

end Run

def trace (store : Store) : List Access → List Step
  | [] => []
  | access :: rest => ⟨store, access⟩ :: trace (access.next store) rest

def Store.afterAll (store : Store) (accesses : List Access) : Store :=
  accesses.foldl (fun store access => access.next store) store

theorem Run.append_trace {allowed : Access → Prop} {steps : List Step} {store : Store}
    (run : Run allowed steps store) (accesses : List Access)
    (permitted : ∀ access ∈ accesses, allowed access) :
    Run allowed (steps ++ trace store accesses) (store.afterAll accesses) := by
  induction accesses generalizing steps store with
  | nil =>
      rw [trace, List.append_nil]
      exact run
  | cons access rest ih =>
      have first := run.next access (permitted access List.mem_cons_self)
      have whole := ih first fun other member => permitted other (List.mem_cons_of_mem _ member)
      rw [List.append_assoc] at whole
      exact whole

/-! ### Effects -/

/-- What a step does to the store, with all that decides it. -/
inductive Step.Effect (step : Step) : Store → Prop
  | none (notSaved : step.saved? = none) (notCommitted : ∀ id, step.commits id = false) :
      Effect step step.before
  | saved {registration : Registration} (access : step.access = .save registration)
      (absent : step.before.records.get? registration.id = none) :
      Effect step
        { step.before.commit registration 1 with
          addresses := step.before.addresses.insert registration.email registration.id }
  | committed {id : RegistrationId} {stored : StoredRegistration} {mutation : Mutation}
      {registration : Registration} (unit : step.access.mutation? = some mutation)
      (target : step.target? = some id)
      (found : step.before.records.get? id = some stored)
      (kept : (mutation.run (.rehydrate stored.snapshot)).committed? = some registration) :
      Effect step (step.before.commit registration (stored.version + 1))

namespace Store

variable {store : Store}

theorem mutateById_of_missing {id : RegistrationId} {mutation : Mutation}
    (missing : store.records.get? id = none) :
    mutateById id mutation store = (.error (.notFound id.text), store) := by
  simp [mutateById, record, missing]

theorem mutateById_of_found {id : RegistrationId} {mutation : Mutation}
    {stored : StoredRegistration} (found : store.records.get? id = some stored) :
    (mutateById id mutation store).2 =
      match (mutation.run (.rehydrate stored.snapshot)).committed? with
      | some registration => store.commit registration (stored.version + 1)
      | none => store := by
  simp only [mutateById, record, found, run]
  cases mutation.run (.rehydrate stored.snapshot) <;> rfl

theorem mutateBy_of_located {key : Key} {mutation : Mutation} {id : RegistrationId}
    (located : store.locate? key = some id) :
    mutateBy key mutation store = mutateById id mutation store := by
  cases key with
  | id known =>
      obtain rfl : known = id := Option.some.inj located
      rfl
  | email email =>
      change store.addresses.get? email = some id at located
      simp [mutateBy, repository, mutateByEmail, latest, located]

theorem mutateBy_of_not_located {key : Key} (mutation : Mutation)
    (lost : store.locate? key = none) :
    ∃ text, mutateBy key mutation store = (.error (.notFound text), store) := by
  cases key with
  | id known => cases lost
  | email email =>
      change store.addresses.get? email = none at lost
      exact ⟨email.address, by simp [mutateBy, repository, mutateByEmail, latest, lost]⟩

theorem save_of_absent {registration : Registration}
    (absent : store.records.get? registration.id = none) :
    (save registration store).2 =
      { store.commit registration 1 with
        addresses := store.addresses.insert registration.email registration.id } := by
  simp [save, absent]

theorem save_of_present {registration : Registration}
    (present : store.records.get? registration.id ≠ none) :
    (save registration store).2 = store := by
  obtain ⟨stored, found⟩ := Option.ne_none_iff_exists'.mp present
  simp [save, found]

end Store

namespace Step

variable {step : Step}

theorem effect_of_mutation {key : Key} {mutation : Mutation}
    (named : step.access.key? = some key) (unit : step.access.mutation? = some mutation)
    (notSaved : step.saved? = none) :
    step.Effect (Store.mutateBy key mutation step.before).2 := by
  have target : step.target? = step.before.locate? key := by simp [target?, named]
  have none_of (quiet : ∀ transition, step.transition? = some transition →
      transition.isCommit = false) : ∀ id, step.commits id = false := by
    intro id
    cases decided : step.transition? with
    | none => simp [commits, decided]
    | some transition => simp [commits, decided, quiet transition decided]
  cases located : step.before.locate? key with
  | none =>
      obtain ⟨text, lost⟩ := Store.mutateBy_of_not_located mutation located
      rw [lost]
      exact .none notSaved (none_of (by simp [transition?, unit, target, located]))
  | some id =>
      rw [Store.mutateBy_of_located located]
      cases found : step.before.records.get? id with
      | none =>
          rw [Store.mutateById_of_missing found]
          exact .none notSaved (none_of (by simp [transition?, unit, target, located, found]))
      | some stored =>
          rw [Store.mutateById_of_found found]
          cases kept : (mutation.run (.rehydrate stored.snapshot)).committed? with
          | none =>
              refine .none notSaved (none_of ?_)
              simp [transition?, unit, target, located, found, Transition.isCommit, kept]
          | some registration =>
              exact .committed unit (target.trans located) found kept

theorem effect (step : Step) : step.Effect step.after := by
  obtain ⟨store, access⟩ := step
  cases access with
  | save registration =>
      by_cases absent : store.records.get? registration.id = none
      · have after : (⟨store, .save registration⟩ : Step).after = _ :=
          Store.save_of_absent absent
        rw [after]
        exact .saved rfl absent
      · have after : (⟨store, .save registration⟩ : Step).after = store :=
          Store.save_of_present absent
        rw [after]
        exact .none (if_neg absent) (fun id => rfl)
  | find key =>
      have after : (⟨store, .find key⟩ : Step).after = store := by cases key <;> rfl
      rw [after]
      exact .none rfl (fun id => by simp [commits, transition?, Access.mutation?])
  | operate key operation => exact effect_of_mutation rfl rfl rfl
  | mutate key mutation => exact effect_of_mutation rfl rfl rfl

end Step

end Enrolment
