/-
Completion. An account is announced once: a completed registration takes every further
command without a change, and its history holds exactly one event about the account. A
completion that comes later finds nothing to do and succeeds, whichever kind of account
it asks for.
-/

import Enrolment.Proofs.History
import Enrolment.Proofs.Session

namespace Enrolment

def Account.announcement : Account → EventKind
  | .student _ => .studentCompleted
  | .staff _ => .staffCompleted

theorem EventBody.kind_completed (account : Account) (passwordHash : PasswordHash) :
    (EventBody.completed account passwordHash).kind = account.announcement := by
  cases account <;> rfl

namespace Store

def kindsOf (store : Store) (id : RegistrationId) : List EventKind :=
  (store.eventsOf id).map fun stored => stored.event.kind

def completionsOf (store : Store) (id : RegistrationId) : Nat :=
  (store.kindsOf id).countP EventKind.isCompletion

end Store

namespace Run

variable {policies : Policy → Prop} {steps : List Step} {store : Store} {id : RegistrationId}

theorem kindsOf_eq {allowed : Access → Prop} (run : Run allowed steps store)
    (id : RegistrationId) : store.kindsOf id = (told id steps).map Event.kind := by
  rw [Store.kindsOf, ← run.eventsOf_eq, List.map_map]
  rfl

/-- A step adds to the history of a registration what came of its exchange with it. -/
theorem kindsOf_after {access : Access} {exchange : Exchange}
    (run : Run (Access.IsStandard policies) steps store) (standard : access.IsStandard policies)
    (held : (⟨store, access⟩ : Step).exchange? id = some exchange) :
    (⟨store, access⟩ : Step).after.kindsOf id =
      store.kindsOf id ++ exchange.events.map Event.kind := by
  have share : Step.Share policies ⟨store, access⟩ id :=
    Step.share (.of_run run.isSound) standard id
  have after := (run.next access standard).kindsOf_eq id
  rw [told_append, told_cons, told_nil, List.append_nil, List.map_append, ← run.kindsOf_eq] at after
  cases share with
  | issued _ _ _ _ _ notHeld | quiet _ _ notHeld =>
      rw [notHeld] at held
      cases held
  | @exchanged same allowed sameHeld version found tells =>
      obtain rfl : same = exchange := Option.some.inj (sameHeld.symm.trans held)
      rw [tells] at after
      exact after

end Run

/-! ### What success announces -/

theorem Fits.announced {id : RegistrationId} {steps : List Step} {snapshot : Snapshot}
    {sending closing : List EventKind} (fits : Fits id steps snapshot sending closing)
    (completed : snapshot.status = .completed) :
    ∃ account : Account, account.announcement ∈ sending ++ closing := by
  have closes := fits.closes
  rw [completed] at closes
  cases closes with
  | completed account passwordHash =>
      rw [EventBody.kind_completed]
      exact ⟨account, by simp⟩

theorem Run.announced {policies : Policy → Prop} {steps : List Step} {store : Store}
    (run : Run (Access.IsStandard policies) steps store) {id : RegistrationId}
    {record : StoredRegistration} (found : store.records.get? id = some record)
    (completed : record.snapshot.status = .completed) :
    ∃ account : Account, account.announcement ∈ store.kindsOf id := by
  obtain ⟨sending, closing, fits⟩ := (run.life found).fits
  rw [run.kindsOf_eq, fits.kinds]
  exact fits.announced completed

/-- A completion that succeeds announces its account, unless there is nothing left to do. -/
theorem Exchange.announces {exchange : Exchange} {candidate : String} {account : Account}
    {passwordHash : PasswordHash}
    (command : exchange.operation.command = .complete candidate account passwordHash)
    (succeeded : exchange.transition.error? = none) :
    account.announcement ∈ exchange.events.map Event.kind ∨
      exchange.transition = .unchanged ∧ exchange.before.status = .completed := by
  cases exchange.ending with
  | refused cause transition failed => rw [failed] at succeeded; cases succeeded
  | passed idle transition =>
      right
      cases idle with
      | checked other => rw [command] at other; cases other
      | completedBefore other same completed => exact ⟨transition, completed⟩
  | changed change transition reported after events =>
      left
      rw [events]
      cases change with
      | lapsed => rw [reported] at succeeded; cases succeeded
      | missed other | exhausted other | verified other | resent other =>
          rw [command] at other
          cases other
      | completed other | completedAtOnce other =>
          rw [command] at other
          cases other
          rw [← EventBody.kind_completed account passwordHash]
          simp [Registration.concluded, Registration.done, Registration.eventFor, Event.kind]

/-- A completion that succeeds leaves its account announced, or it found an account of the
other kind and changed nothing. -/
theorem Run.completion_announced {steps : List Step} {store : Store}
    (run : Run (Access.IsStandard fun _ => True) steps store) {key : Key} {id : RegistrationId}
    (target : store.locate? key = some id) {operation : Operation} {candidate : String}
    {account : Account} {passwordHash : PasswordHash}
    (command : operation.command = .complete candidate account passwordHash)
    {transition : Transition}
    (decided : (⟨store, .operate key operation⟩ : Step).transition? = some transition)
    (succeeded : transition.error? = none) :
    account.announcement ∈ (⟨store, .operate key operation⟩ : Step).after.kindsOf id ∨
      transition = .unchanged ∧ ∃ other : Account,
        other.announcement ≠ account.announcement ∧ other.announcement ∈ store.kindsOf id := by
  have standard : (Access.operate key operation).IsStandard fun _ => True := trivial
  have names : (⟨store, .operate key operation⟩ : Step).target? = some id := target
  obtain ⟨stored, found, held, same⟩ := Step.exchange?_of_transition? rfl names decided
  rw [run.kindsOf_after standard held, List.mem_append]
  rw [same] at succeeded ⊢
  rcases Exchange.announces command succeeded with announced | ⟨unchanged, completed⟩
  · exact Or.inl (Or.inr announced)
  · obtain ⟨other, announced⟩ := run.announced found completed
    by_cases sameKind : other.announcement = account.announcement
    · rw [sameKind] at announced
      exact Or.inl (Or.inl announced)
    · exact Or.inr ⟨unchanged, other, sameKind, announced⟩

theorem run_recovery_any : Run (Access.IsStandard fun _ => True) (trace .empty recovery)
    (Store.empty.afterAll recovery) :=
  run_recovery.mono fun _ standard => standard.mono fun _ _ => trivial

def Step.afterRecovery (account : Account) : Step :=
  ⟨Store.empty.afterAll recovery, .operate (.id ⟨.nil⟩) (.brief (.complete "B" account ⟨""⟩))⟩

def Account.pupil : Account :=
  .student
    { barcode := "2", firstName := "c", lastName := "d", middleName := none, groupId := .nil }

theorem completion_announced_again :
    Run (Access.IsStandard fun _ => True) (trace .empty recovery) (Store.empty.afterAll recovery) ∧
      ∃ transition, (Step.afterRecovery .pupil).transition? = some transition ∧
        transition.error? = none ∧
        (Account.pupil.announcement ∈ (Step.afterRecovery .pupil).after.kindsOf ⟨.nil⟩ ∨
          transition = .unchanged ∧ ∃ other : Account,
            other.announcement ≠ Account.pupil.announcement ∧
              other.announcement ∈ (Store.empty.afterAll recovery).kindsOf ⟨.nil⟩) := by
  have decided : (Step.afterRecovery .pupil).transition? = some .unchanged := rfl
  refine ⟨run_recovery_any, .unchanged, decided, rfl, ?_⟩
  exact run_recovery_any.completion_announced rfl rfl decided rfl

/-- Staff can complete what a student has completed, and no event tells of it. -/
theorem completion_of_staff_unannounced :
    ∃ (steps : List Step) (store : Store) (key : Key) (id : RegistrationId)
      (operation : Operation) (candidate : String) (profile : StaffProfile)
      (passwordHash : PasswordHash) (transition : Transition),
      Run (Access.IsStandard fun _ => True) steps store ∧ store.locate? key = some id ∧
      operation.command = .complete candidate (.staff profile) passwordHash ∧
      (⟨store, .operate key operation⟩ : Step).transition? = some transition ∧
      transition.error? = none ∧
      EventKind.staffCompleted ∉ (⟨store, .operate key operation⟩ : Step).after.kindsOf id :=
  ⟨_, _, .id ⟨.nil⟩, ⟨.nil⟩, .brief (.complete "B" .clerk ⟨""⟩), _, _, _, .unchanged,
    run_recovery_any, rfl, rfl, rfl, rfl, by decide⟩

/-! ### Nothing follows completion -/

/-- Storage is told to keep nothing. -/
def Transition.IsStill (transition : Transition) : Prop :=
  transition = .unchanged ∨ ∃ error, transition = .reject error

theorem Transition.IsStill.committed? {transition : Transition} (still : transition.IsStill) :
    transition.committed? = none := by
  rcases still with rfl | ⟨error, rfl⟩
  · rfl
  · rfl

theorem Operation.Change.not_completed {operation : Operation} {loaded : Registration}
    {outcome : Outcome} (change : operation.Change loaded outcome) :
    loaded.status ≠ .completed := by
  intro completed
  cases change with
  | lapsed tries before | missed command before | exhausted command before
  | verified command before | completed command before | completedAtOnce command before =>
      rw [completed] at before
      cases before
  | resent command waited notCompleted => exact notCompleted completed

theorem Operation.isStill_of_completed (operation : Operation) {loaded : Registration}
    (completed : loaded.status = .completed) :
    ((Mutation.ofOperation operation).run loaded).IsStill := by
  have course := operation.course loaded
  generalize ran : operation.run loaded = outcome at course
  cases course with
  | refused cause => exact Or.inr ⟨_, Mutation.ofOperation_run_of_refused ran⟩
  | passed idle => exact Or.inl (Mutation.ofOperation_run_of_idle ran)
  | changed change => exact absurd completed change.not_completed

def Access.IsCommandTo (store : Store) (id : RegistrationId) (access : Access) : Prop :=
  ∃ key operation, access = .operate key operation ∧ store.locate? key = some id

def Store.Absorbs (store : Store) (id : RegistrationId) : Prop :=
  ∀ accesses : List Access, (∀ access ∈ accesses, access.IsCommandTo store id) →
    store.afterAll accesses = store ∧
      ∀ step ∈ trace store accesses, ∃ transition,
        step.transition? = some transition ∧ transition.IsStill

section Completed

variable {store : Store} {id : RegistrationId} {record : StoredRegistration}

theorem Access.IsCommandTo.still {access : Access} (command : access.IsCommandTo store id)
    (found : store.records.get? id = some record)
    (completed : record.snapshot.status = .completed) :
    access.next store = store ∧ ∃ transition,
      (⟨store, access⟩ : Step).transition? = some transition ∧ transition.IsStill := by
  obtain ⟨key, operation, rfl, target⟩ := command
  have still : ((Mutation.ofOperation operation).run (.rehydrate record.snapshot)).IsStill :=
    operation.isStill_of_completed completed
  constructor
  · change (Store.mutateBy key (.ofOperation operation) store).2 = store
    rw [Store.mutateBy_of_located target, Store.mutateById_of_found found, still.committed?]
  · refine ⟨_, ?_, still⟩
    simp [Step.transition?, Step.target?, Access.mutation?, Access.key?, target, found]

theorem Store.absorbs (found : store.records.get? id = some record)
    (completed : record.snapshot.status = .completed) : store.Absorbs id := by
  intro accesses commands
  induction accesses with
  | nil => exact ⟨rfl, fun step member => absurd member List.not_mem_nil⟩
  | cons access rest ih =>
      obtain ⟨after, first⟩ := (commands access List.mem_cons_self).still found completed
      obtain ⟨all, steps⟩ := ih fun other member => commands other (List.mem_cons_of_mem _ member)
      rw [Store.afterAll, List.foldl_cons, trace, after]
      refine ⟨all, ?_⟩
      intro step member
      rcases List.mem_cons.mp member with rfl | member
      · exact first
      · exact steps step member

end Completed

/-! ### One completion -/

theorem Sending.noCompletion {kinds : List EventKind} (sending : Sending kinds) :
    kinds.countP EventKind.isCompletion = 0 := by
  induction sending with
  | started => rfl
  | resent sending interrupted ih =>
      rw [List.countP_append, List.countP_append, ih]
      rcases interrupted with rfl | rfl | rfl
      all_goals rfl

theorem Closing.completions {status : Status} {closing : List EventKind}
    (closes : Closing status closing) :
    closing.countP EventKind.isCompletion = if status = .completed then 1 else 0 := by
  cases closes with
  | pending | lapsed | exhausted | verified => rfl
  | completed account passwordHash => cases account <;> rfl

theorem Run.completions {policies : Policy → Prop} {steps : List Step} {store : Store}
    (run : Run (Access.IsStandard policies) steps store) {id : RegistrationId}
    {record : StoredRegistration} (found : store.records.get? id = some record) :
    store.completionsOf id = if record.snapshot.status = .completed then 1 else 0 := by
  obtain ⟨sending, closing, fits⟩ := (run.life found).fits
  rw [Store.completionsOf, run.kindsOf_eq, fits.kinds, List.countP_append,
    fits.sends.noCompletion, fits.closes.completions, Nat.zero_add]

/-- A registration that is completed absorbs every command, in any store; and in a store
that a run leads to, it is completed exactly if one event tells of its account. -/
theorem Store.completion_final (store : Store) {id : RegistrationId} {record : StoredRegistration}
    (found : store.records.get? id = some record) :
    (record.snapshot.status = .completed → store.Absorbs id) ∧
      ∀ steps, Run (Access.IsStandard fun _ => True) steps store →
        store.completionsOf id = if record.snapshot.status = .completed then 1 else 0 := by
  constructor
  · intro completed
    exact store.absorbs found completed
  · intro steps run
    exact run.completions found

theorem completion_final_after_recovery :
    ∃ record, (Store.empty.afterAll recovery).records.get? ⟨.nil⟩ = some record ∧
      record.snapshot.status = .completed ∧ (Store.empty.afterAll recovery).Absorbs ⟨.nil⟩ ∧
      (Store.empty.afterAll recovery).completionsOf ⟨.nil⟩ = 1 := by
  have found : ∃ record, (Store.empty.afterAll recovery).records.get? ⟨.nil⟩ = some record ∧
      record.snapshot.status = .completed := ⟨_, rfl, rfl⟩
  obtain ⟨record, found, completed⟩ := found
  obtain ⟨absorbs, completions⟩ := Store.completion_final _ found
  have once := completions _ run_recovery_any
  rw [if_pos completed] at once
  exact ⟨record, found, completed, absorbs completed, once⟩

end Enrolment
