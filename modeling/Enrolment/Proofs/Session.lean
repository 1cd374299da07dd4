/-
One registration and its units of work. An exchange runs an operation on a stored state
and keeps what storage is told to keep; in a session each exchange starts from the state
that the one before it left. What a run of storage does with one of its registrations is
a session, whatever happens to the others in between.
-/

import Enrolment.Proofs.Life

namespace Enrolment

/-! ### Exchanges -/

structure Exchange where
  before : Snapshot
  operation : Operation

namespace Exchange

def transition (exchange : Exchange) : Transition :=
  (Mutation.ofOperation exchange.operation).run (.rehydrate exchange.before)

def after (exchange : Exchange) : Snapshot :=
  match exchange.transition.committed? with
  | some registration => registration.toSnapshot
  | none => exchange.before

def events (exchange : Exchange) : List Event :=
  match exchange.transition.committed? with
  | some registration => registration.recorder.events
  | none => []

end Exchange

/-- What storage is told to keep of an outcome that changed something. -/
def Outcome.kept (outcome : Outcome) : Transition :=
  match outcome.result with
  | .ok () => .commit outcome.after
  | .error error => .commitAndFail outcome.after error

def Outcome.error? (outcome : Outcome) : Option RegistrationError :=
  match outcome.result with
  | .ok () => none
  | .error error => some error

theorem Outcome.kept_spec (outcome : Outcome) :
    outcome.kept.committed? = some outcome.after ∧ outcome.kept.error? = outcome.error? := by
  unfold kept error?
  cases outcome.result with
  | ok => exact ⟨rfl, rfl⟩
  | error error => exact ⟨rfl, rfl⟩

inductive Exchange.Ending (exchange : Exchange) : Prop
  | refused {error : RegistrationError}
      (cause : exchange.operation.Refusal (.rehydrate exchange.before) error)
      (transition : exchange.transition = .reject error)
      (reported : exchange.transition.error? = some error)
      (after : exchange.after = exchange.before) (events : exchange.events = [])
  | passed (idle : exchange.operation.Idle (.rehydrate exchange.before))
      (transition : exchange.transition = .unchanged)
      (reported : exchange.transition.error? = none)
      (after : exchange.after = exchange.before) (events : exchange.events = [])
  | changed {outcome : Outcome}
      (change : exchange.operation.Change (.rehydrate exchange.before) outcome)
      (transition : exchange.transition = outcome.kept)
      (reported : exchange.transition.error? = outcome.error?)
      (after : exchange.after = outcome.after.toSnapshot)
      (events : exchange.events = outcome.after.recorder.events)

namespace Exchange

theorem kept_of_committed {exchange : Exchange} {registration : Registration}
    (committed : exchange.transition.committed? = some registration) :
    exchange.after = registration.toSnapshot ∧
      exchange.events = registration.recorder.events := by
  simp only [after, events, committed, and_self]

theorem kept_of_not_committed {exchange : Exchange}
    (notCommitted : exchange.transition.committed? = none) :
    exchange.after = exchange.before ∧ exchange.events = [] := by
  simp only [after, events, notCommitted, and_self]

theorem ending (exchange : Exchange) : exchange.Ending := by
  have course := exchange.operation.course (.rehydrate exchange.before)
  generalize ran : exchange.operation.run (.rehydrate exchange.before) = outcome at course
  cases course with
  | @refused error cause =>
      have transition : exchange.transition = .reject error :=
        Mutation.ofOperation_run_of_refused ran
      have nothing : exchange.transition.committed? = none := by rw [transition]; rfl
      obtain ⟨after, events⟩ := kept_of_not_committed nothing
      exact .refused cause transition (by rw [transition]; rfl) after events
  | passed idle =>
      have transition : exchange.transition = .unchanged := Mutation.ofOperation_run_of_idle ran
      have nothing : exchange.transition.committed? = none := by rw [transition]; rfl
      obtain ⟨after, events⟩ := kept_of_not_committed nothing
      exact .passed idle transition (by rw [transition]; rfl) after events
  | changed change =>
      have transition : exchange.transition = outcome.kept := change.kept ran
      obtain ⟨committed, reported⟩ := outcome.kept_spec
      rw [← transition] at committed reported
      obtain ⟨after, events⟩ := kept_of_committed committed
      exact .changed change transition reported after events

end Exchange

/-! ### Sessions -/

inductive Session (allowed : Operation → Prop) (start : Snapshot) :
    List Exchange → Snapshot → Prop
  | start : Session allowed start [] start
  | next {exchanges : List Exchange} {snapshot : Snapshot}
      (earlier : Session allowed start exchanges snapshot) (operation : Operation)
      (permitted : allowed operation) :
      Session allowed start (exchanges ++ [⟨snapshot, operation⟩])
        (⟨snapshot, operation⟩ : Exchange).after

theorem Session.mono {allowed stronger : Operation → Prop}
    (weaker : ∀ operation, stronger operation → allowed operation) {start snapshot : Snapshot}
    {exchanges : List Exchange} (session : Session stronger start exchanges snapshot) :
    Session allowed start exchanges snapshot := by
  induction session with
  | start => exact .start
  | next earlier operation permitted ih => exact .next ih operation (weaker operation permitted)

/-- Each exchange of a session starts from the state that those before it lead to. -/
theorem Session.split {allowed : Operation → Prop} {start snapshot : Snapshot}
    {earlier later : List Exchange} {exchange : Exchange}
    (session : Session allowed start (earlier ++ exchange :: later) snapshot) :
    Session allowed start earlier exchange.before ∧ allowed exchange.operation := by
  generalize whole : earlier ++ exchange :: later = exchanges at session
  induction session generalizing later with
  | start => exact absurd whole (by simp)
  | @next exchanges snapshot before operation permitted ih =>
      rcases List.eq_nil_or_concat later with rfl | ⟨front, last, rfl⟩
      · obtain ⟨rfl, same⟩ := List.append_inj' whole rfl
        rw [List.singleton_inj.mp same]
        exact ⟨before, permitted⟩
      · have shifted : (earlier ++ exchange :: front) ++ [last] =
            exchanges ++ [⟨snapshot, operation⟩] := by simpa using whole
        exact ih (List.append_inj' shifted rfl).1

def converse (snapshot : Snapshot) : List Operation → List Exchange
  | [] => []
  | operation :: rest =>
      ⟨snapshot, operation⟩ :: converse (⟨snapshot, operation⟩ : Exchange).after rest

def Snapshot.afterAll (snapshot : Snapshot) (operations : List Operation) : Snapshot :=
  operations.foldl (fun snapshot operation => (⟨snapshot, operation⟩ : Exchange).after) snapshot

theorem Session.append_converse {allowed : Operation → Prop} {start snapshot : Snapshot}
    {exchanges : List Exchange} (session : Session allowed start exchanges snapshot)
    (operations : List Operation) (permitted : ∀ operation ∈ operations, allowed operation) :
    Session allowed start (exchanges ++ converse snapshot operations)
      (snapshot.afterAll operations) := by
  induction operations generalizing exchanges snapshot with
  | nil =>
      rw [converse, List.append_nil]
      exact session
  | cons operation rest ih =>
      have first := session.next operation (permitted operation List.mem_cons_self)
      have whole := ih first fun other member => permitted other (List.mem_cons_of_mem _ member)
      rw [List.append_assoc] at whole
      exact whole

/-! ### Steps of a run -/

def Step.exchange? (step : Step) (id : RegistrationId) : Option Exchange := do
  let operation ← step.access.operation?
  let stored ← step.before.records.get? id
  if step.target? = some id then some ⟨stored.snapshot, operation⟩ else none

def exchangesWith (id : RegistrationId) (steps : List Step) : List Exchange :=
  steps.filterMap (·.exchange? id)

namespace Step

variable {step : Step} {id : RegistrationId}

theorem exchange?_of_operation {operation : Operation} {stored : StoredRegistration}
    (access : step.access.operation? = some operation) (target : step.target? = some id)
    (found : step.before.records.get? id = some stored) :
    step.exchange? id = some ⟨stored.snapshot, operation⟩ := by
  simp [exchange?, access, target, found]

theorem of_exchange? {exchange : Exchange} (held : step.exchange? id = some exchange) :
    step.access.operation? = some exchange.operation ∧ step.target? = some id ∧
      ∃ stored, step.before.records.get? id = some stored ∧ stored.snapshot = exchange.before := by
  simp only [exchange?, bind, Option.bind_eq_some_iff] at held
  obtain ⟨operation, access, stored, found, held⟩ := held
  split at held
  · next target =>
      obtain rfl := Option.some.inj held
      exact ⟨access, target, stored, found, rfl⟩
  · cases held

theorem mutation?_of_operation? {access : Access} {operation : Operation}
    (named : access.operation? = some operation) :
    access.mutation? = some (.ofOperation operation) := by
  cases access with
  | save | find | mutate => cases named
  | operate key known => rw [← Option.some.inj named]; rfl

theorem transition?_of_exchange? {exchange : Exchange} (held : step.exchange? id = some exchange) :
    step.transition? = some exchange.transition := by
  obtain ⟨access, target, stored, found, same⟩ := of_exchange? held
  simp [transition?, mutation?_of_operation? access, target, found, Exchange.transition, same]

theorem exchange?_of_transition? {operation : Operation} {transition : Transition}
    (access : step.access.operation? = some operation) (target : step.target? = some id)
    (decided : step.transition? = some transition) :
    ∃ stored, step.before.records.get? id = some stored ∧
      step.exchange? id = some ⟨stored.snapshot, operation⟩ ∧
      transition = (⟨stored.snapshot, operation⟩ : Exchange).transition := by
  cases found : step.before.records.get? id with
  | none => simp [transition?, target, found] at decided
  | some stored =>
      have held := exchange?_of_operation access target found
      have same := transition?_of_exchange? held
      rw [decided] at same
      exact ⟨stored, rfl, held, Option.some.inj same⟩

end Step

inductive Step.Share (policies : Policy → Prop) (step : Step) (id : RegistrationId) : Prop
  | issued {policy : Policy} {occasion : Occasion} {email : String}
      {registration : Registration} (allowed : policies policy)
      (issued : Registration.issue policy occasion id email = .ok registration)
      (absent : step.before.records.get? id = none) {version : Nat}
      (found : step.after.records.get? id = some ⟨registration.toSnapshot, version⟩)
      (tells : step.told id = registration.recorder.events)
      (notHeld : step.exchange? id = none)
  | exchanged {exchange : Exchange} (allowed : policies exchange.operation.policy)
      (held : step.exchange? id = some exchange) {version : Nat}
      (found : step.after.records.get? id = some ⟨exchange.after, version⟩)
      (tells : step.told id = exchange.events)
  | quiet (same : step.after.records.get? id = step.before.records.get? id)
      (tells : step.told id = []) (notHeld : step.exchange? id = none)

namespace Step

variable {step : Step} {id : RegistrationId} {policies : Policy → Prop}

theorem policy_of_standard {access : Access} {operation : Operation}
    (standard : access.IsStandard policies) (named : access.operation? = some operation) :
    policies operation.policy := by
  cases access with
  | save | find | mutate => cases named
  | operate key known => rw [← Option.some.inj named]; exact standard

/-- A step that commits nothing about a registration shares in it at most a refusal. -/
theorem share_of_not_committed (standard : step.access.IsStandard policies)
    (same : step.after.records.get? id = step.before.records.get? id)
    (tells : step.told id = []) (notCommitted : step.commits id = false) :
    step.Share policies id := by
  cases held : step.exchange? id with
  | none => exact .quiet same tells held
  | some exchange =>
      obtain ⟨access, target, stored, found, before⟩ := of_exchange? held
      have nothing : exchange.transition.committed? = none := by
        simpa [commits, target, transition?_of_exchange? held, Transition.isCommit]
          using notCommitted
      obtain ⟨after, events⟩ := Exchange.kept_of_not_committed nothing
      have still : step.after.records.get? id = some ⟨exchange.after, stored.version⟩ := by
        rw [same, found, after, ← before]
      exact .exchanged (policy_of_standard standard access) held still (by rw [tells, events])

theorem share {steps : List Step} (grounded : Grounded steps step.before)
    (standard : step.access.IsStandard policies) (id : RegistrationId) :
    step.Share policies id := by
  have effect := step.effect
  generalize reached : step.after = after at effect
  cases effect with
  | none notSaved notCommitted =>
      refine share_of_not_committed standard (by rw [reached]) ?_ (notCommitted id)
      rw [told, committed_of_log (by rw [reached, List.append_nil])]
      rfl
  | @saved registration access absent =>
      have committed : step.committed = Store.number registration.id
          (step.before.log.length + 1) registration.recorder.events :=
        committed_of_log (by rw [reached]; rfl)
      have found : step.after.records.get? id = if id = registration.id
          then some ⟨registration.toSnapshot, 1⟩ else step.before.records.get? id := by
        rw [reached]
        exact Store.get?_commit step.before registration 1 id
      have tells := told_of_number committed id
      by_cases same : id = registration.id
      · rw [if_pos same] at found
        rw [if_pos same.symm] at tells
        rw [← same] at absent
        rw [access] at standard
        obtain ⟨policy, occasion, name, email, allowed, issued⟩ := standard
        obtain rfl : id = name := same.trans (Registration.id_of_issue issued)
        exact .issued allowed issued absent found tells (by simp [exchange?, absent])
      · rw [if_neg same] at found
        rw [if_neg (Ne.symm same)] at tells
        exact share_of_not_committed standard found tells (commits_of_save access id)
  | @committed target stored mutation registration unit located found kept =>
      have sameId : registration.id = target := grounded.id_of_committed found kept
      have committed : step.committed = Store.number target
          (step.before.log.length + 1) registration.recorder.events :=
        committed_of_log (by rw [reached, ← sameId]; rfl)
      have tells := told_of_number committed id
      have after : step.after.records.get? id = if id = target
          then some ⟨registration.toSnapshot, stored.version + 1⟩
          else step.before.records.get? id := by
        rw [reached, Store.get?_commit, sameId]
      by_cases same : id = target
      · subst same
        rw [if_pos rfl] at after tells
        cases access : step.access with
        | save | find => rw [access] at unit; cases unit
        | mutate key mutation => rw [access] at standard; exact False.elim standard
        | operate key operation =>
            have named : step.access.operation? = some operation := by rw [access]; rfl
            have held := exchange?_of_operation named located found
            rw [access] at unit
            obtain rfl : Mutation.ofOperation operation = mutation := Option.some.inj unit
            have allowed := policy_of_standard standard named
            have committed : (⟨stored.snapshot, operation⟩ : Exchange).transition.committed? =
                some registration := kept
            obtain ⟨state, events⟩ := Exchange.kept_of_committed committed
            rw [← state] at after
            rw [← events] at tells
            exact .exchanged allowed held after tells
      · rw [if_neg same] at after
        rw [if_neg (Ne.symm same)] at tells
        have notCommitted : step.commits id = false := by
          rw [commits_of_kept unit located found kept]
          exact decide_eq_false same
        exact share_of_not_committed standard after tells notCommitted

end Step

/-! ### Sessions of a run -/

/-- The session that a run holds with a registration, from its issue on. -/
inductive Held (policies : Policy → Prop) (id : RegistrationId) (steps : List Step)
    (snapshot : Snapshot) : Prop
  | intro {policy : Policy} {occasion : Occasion} {email : String}
      {registration : Registration} (allowed : policies policy)
      (issued : Registration.issue policy occasion id email = .ok registration)
      (session : Session (fun operation => policies operation.policy)
        registration.toSnapshot (exchangesWith id steps) snapshot)
      (told_eq : told id steps = registration.recorder.events ++
        (exchangesWith id steps).flatMap Exchange.events)

theorem exchangesWith_of_absent {allowed : Access → Prop} {steps : List Step} {store : Store}
    (run : Run allowed steps store) (sound : ∀ access, allowed access → access.IsSound)
    {id : RegistrationId} (absent : store.records.get? id = none) :
    exchangesWith id steps = [] := by
  refine List.filterMap_eq_nil_iff.mpr fun step member => ?_
  cases held : step.exchange? id with
  | none => rfl
  | some exchange =>
      -- The registration was there then, so it is there still.
      obtain ⟨_, _, stored, found, _⟩ := Step.of_exchange? held
      have soundRun := run.mono sound
      obtain ⟨record, still, _⟩ := (Grounded.of_run soundRun).permanent soundRun member found
      rw [absent] at still
      cases still

theorem Run.held {policies : Policy → Prop} {steps : List Step} {store : Store}
    (run : Run (Access.IsStandard policies) steps store) {id : RegistrationId}
    {record : StoredRegistration} (found : store.records.get? id = some record) :
    Held policies id steps record.snapshot := by
  induction run generalizing record with
  | start => cases found
  | @next steps store earlier access permitted ih =>
      have grounded : Grounded steps store := .of_run earlier.isSound
      have share : Step.Share policies ⟨store, access⟩ id := Step.share grounded permitted id
      change (⟨store, access⟩ : Step).after.records.get? id = some record at found
      cases share with
      | issued allowed issued absent new tells notHeld =>
          rw [new] at found
          rw [← Option.some.inj found]
          have before : exchangesWith id steps = [] :=
            exchangesWith_of_absent earlier (fun _ standard => standard.isSound) absent
          have none : exchangesWith id (steps ++ [⟨store, access⟩]) = [] := by
            simpa [exchangesWith, notHeld] using before
          refine .intro allowed issued (by rw [none]; exact .start) ?_
          rw [none, told_append, grounded.told_of_absent earlier absent, told_cons, tells]
          rfl
      | @exchanged exchange allowed held version new tells =>
          rw [new] at found
          rw [← Option.some.inj found]
          obtain ⟨_, _, stored, before, same⟩ := Step.of_exchange? held
          have exchanges : exchangesWith id (steps ++ [⟨store, access⟩]) =
              exchangesWith id steps ++ [exchange] := by simp [exchangesWith, held]
          cases ih before with
          | intro first issued session told_eq =>
              rw [same] at session
              refine .intro first issued ?_ ?_
              · rw [exchanges]
                exact session.next exchange.operation allowed
              · rw [exchanges, told_append, told_eq, told_cons, tells]
                simp
      | quiet same tells notHeld =>
          rw [same] at found
          have exchanges : exchangesWith id (steps ++ [⟨store, access⟩]) =
              exchangesWith id steps := by simp [exchangesWith, notHeld]
          cases ih found with
          | intro allowed issued session told_eq =>
              refine .intro allowed issued (by rw [exchanges]; exact session) ?_
              rw [exchanges, told_append, told_eq, told_cons, tells]
              simp

end Enrolment
