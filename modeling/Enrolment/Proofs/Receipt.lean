/-
Calls on storage and their receipts. What a unit of work decides about one stored
registration settles the answer of the call and the store after it: a call that fails
leaves the whole store as it was, and one that succeeds touches a single registration and
the end of the log, and says what is there now.
-/

import Enrolment.Proofs.Life

namespace Enrolment

def Transition.events (decision : Transition) : List Event :=
  match decision.committed? with
  | some registration => registration.recorder.events
  | none => []

def Transition.IsAbout (decision : Transition) (id : RegistrationId) : Prop :=
  ∀ registration, decision.committed? = some registration → registration.id = id

theorem Transition.events_of_committed {decision : Transition} {registration : Registration}
    (kept : decision.committed? = some registration) :
    decision.events = registration.recorder.events := by
  unfold events
  rw [kept]

theorem Transition.events_of_not_committed {decision : Transition}
    (dropped : decision.committed? = none) : decision.events = [] := by
  unfold events
  rw [dropped]

namespace StoredRegistration

def answer (stored : StoredRegistration) : Transition → Except RepositoryError Receipt
  | .reject error => .error (.rejected error)
  | .unchanged => .ok (Store.receipt (.rehydrate stored.snapshot) stored.version none)
  | .commit registration => .ok (Store.receipt registration (stored.version + 1) none)
  | .commitAndFail registration error =>
      .ok (Store.receipt registration (stored.version + 1) (some error))

def decision (stored : StoredRegistration) (mutation : Mutation) : Transition :=
  mutation.run (.rehydrate stored.snapshot)

end StoredRegistration

namespace Store

variable {store : Store} {id : RegistrationId} {stored : StoredRegistration}
  {decision : Transition}

def settle (store : Store) (stored : StoredRegistration) (decision : Transition) : Store :=
  match decision.committed? with
  | some registration => store.commit registration (stored.version + 1)
  | none => store

theorem settle_of_committed {registration : Registration}
    (kept : decision.committed? = some registration) :
    store.settle stored decision = store.commit registration (stored.version + 1) := by
  unfold settle
  rw [kept]

theorem settle_of_not_committed (dropped : decision.committed? = none) :
    store.settle stored decision = store := by
  unfold settle
  rw [dropped]

theorem run_eq (mutation : Mutation) (stored : StoredRegistration) (store : Store) :
    run mutation stored store =
      (stored.answer (stored.decision mutation), store.settle stored (stored.decision mutation)) := by
  unfold run StoredRegistration.decision
  cases mutation.run (.rehydrate stored.snapshot) with
  | commit registration => rfl
  | commitAndFail registration error => rfl
  | unchanged => rfl
  | reject error => rfl

/-- All that a call to change a registration does, once the registration is found. -/
theorem mutateBy_of_found {key : Key} {mutation : Mutation}
    (located : store.locate? key = some id) (found : store.records.get? id = some stored) :
    mutateBy key mutation store =
      (stored.answer (stored.decision mutation), store.settle stored (stored.decision mutation)) := by
  rw [mutateBy_of_located located, ← run_eq]
  simp only [mutateById, record, found]

theorem mutateBy_cases (store : Store) (key : Key) (mutation : Mutation) :
    (∀ id, store.locate? key = some id → store.records.get? id = none) ∧
        (∃ text, mutateBy key mutation store = (.error (.notFound text), store)) ∨
      ∃ id stored, store.locate? key = some id ∧ store.records.get? id = some stored ∧
        mutateBy key mutation store =
          (stored.answer (stored.decision mutation),
            store.settle stored (stored.decision mutation)) := by
  cases located : store.locate? key with
  | none =>
      left
      exact ⟨nofun, mutateBy_of_not_located mutation located⟩
  | some id =>
      cases found : store.records.get? id with
      | none =>
          left
          constructor
          · intro other same
            rw [← Option.some.inj same]
            exact found
          · refine ⟨id.text, ?_⟩
            rw [mutateBy_of_located located, mutateById_of_missing found]
      | some stored =>
          right
          exact ⟨id, stored, rfl, found, mutateBy_of_found located found⟩

/-! ### What a decision touches -/

theorem addresses_settle : (store.settle stored decision).addresses = store.addresses := by
  unfold settle
  split
  · rfl
  · rfl

theorem log_settle (about : decision.IsAbout id) :
    (store.settle stored decision).log =
      store.log ++ number id (store.log.length + 1) decision.events := by
  cases kept : decision.committed? with
  | none =>
      rw [settle_of_not_committed kept, Transition.events_of_not_committed kept]
      exact (List.append_nil _).symm
  | some registration =>
      rw [settle_of_committed kept, Transition.events_of_committed kept,
        ← about registration kept]
      rfl

theorem get?_settle_of_ne (about : decision.IsAbout id) {other : RegistrationId}
    (different : other ≠ id) :
    (store.settle stored decision).records.get? other = store.records.get? other := by
  cases kept : decision.committed? with
  | none => rw [settle_of_not_committed kept]
  | some registration =>
      rw [settle_of_committed kept, get?_commit, about registration kept, if_neg different]

theorem get?_settle (about : decision.IsAbout id)
    (found : store.records.get? id = some stored) :
    (store.settle stored decision).records.get? id =
      match decision.committed? with
      | some registration => some ⟨registration.toSnapshot, stored.version + 1⟩
      | none => some stored := by
  cases kept : decision.committed? with
  | none => rw [settle_of_not_committed kept, found]
  | some registration =>
      rw [settle_of_committed kept, get?_commit, if_pos (about registration kept).symm]

theorem eventsOf_settle (about : decision.IsAbout id) (other : RegistrationId) :
    (store.settle stored decision).eventsOf other = store.eventsOf other ++
      if id = other then number id (store.log.length + 1) decision.events else [] := by
  unfold eventsOf
  rw [log_settle about, List.filter_append, filter_number]

theorem eventsOf_settle_of_ne (about : decision.IsAbout id) {other : RegistrationId}
    (different : other ≠ id) :
    (store.settle stored decision).eventsOf other = store.eventsOf other := by
  rw [eventsOf_settle about, if_neg (Ne.symm different), List.append_nil]

theorem findById_of_found (found : store.records.get? id = some stored) :
    store.findById id = .ok (.rehydrate stored.snapshot) := by
  simp [findById, record, found, Except.map]

theorem version?_of_found (found : store.records.get? id = some stored) :
    store.version? id = some stored.version := by
  simp [version?, found]

end Store

theorem Grounded.isAbout {steps : List Step} {store : Store} (grounded : Grounded steps store)
    {id : RegistrationId} {stored : StoredRegistration}
    (found : store.records.get? id = some stored) (mutation : Mutation) :
    (stored.decision mutation).IsAbout id := by
  intro registration kept
  exact grounded.id_of_committed found kept

/-! ### Receipts -/

theorem Registration.rehydrate_of_drained {registration : Registration}
    (drained : registration.recorder = .empty) :
    rehydrate registration.toSnapshot = registration := by
  obtain ⟨snapshot, recorder⟩ := registration
  subst drained
  rfl

/-- What a receipt says of the stores before and after the call that it answers. -/
structure Receipt.Holds (receipt : Receipt) (id : RegistrationId) (before after : Store) :
    Prop where
  found : after.findById id = .ok receipt.registration
  drained : receipt.registration.recorder = .empty
  version : after.version? id = some receipt.version
  log : after.log = before.log ++ Store.number id (before.log.length + 1) receipt.events
  records : ∀ other, other ≠ id → after.records.get? other = before.records.get? other
  events : ∀ other, other ≠ id → after.eventsOf other = before.eventsOf other

structure Receipt.Reports (receipt : Receipt) (stored : StoredRegistration)
    (decision : Transition) (before after : Store) : Prop where
  failure : receipt.failure = decision.error?
  committed : ∀ registration, decision.committed? = some registration →
    receipt.version = stored.version + 1 ∧ receipt.events = registration.recorder.events ∧
      receipt.registration.toSnapshot = registration.toSnapshot
  /-- Where nothing is committed nothing is written. -/
  quiet : decision.isCommit = false →
    receipt.version = stored.version ∧ receipt.events = [] ∧
      receipt.registration.toSnapshot = stored.snapshot ∧ after = before

namespace Store

variable {store : Store} {id : RegistrationId} {stored : StoredRegistration}
  {decision : Transition} {receipt : Receipt}

/-- A decision that is answered with a receipt settles what the receipt tells. -/
theorem receipt_of_answer (answered : stored.answer decision = .ok receipt) :
    receipt.events = decision.events ∧ receipt.failure = decision.error? ∧
      receipt.registration.recorder = .empty ∧
      match decision.committed? with
      | some registration =>
          receipt.registration.toSnapshot = registration.toSnapshot ∧
            receipt.version = stored.version + 1
      | none =>
          receipt.registration.toSnapshot = stored.snapshot ∧ receipt.version = stored.version := by
  cases decision with
  | reject error => cases answered
  | unchanged | commit | commitAndFail =>
      rw [← Except.ok.inj answered]
      exact ⟨rfl, rfl, rfl, rfl, rfl⟩

theorem get?_settle_self (about : decision.IsAbout id)
    (found : store.records.get? id = some stored)
    (answered : stored.answer decision = .ok receipt) :
    (store.settle stored decision).records.get? id =
      some ⟨receipt.registration.toSnapshot, receipt.version⟩ := by
  obtain ⟨_, _, _, state⟩ := receipt_of_answer answered
  rw [get?_settle about found]
  cases kept : decision.committed? with
  | none =>
      rw [kept] at state
      rw [state.1, state.2]
  | some registration =>
      rw [kept] at state
      rw [state.1, state.2]

theorem holds_of_answer (about : decision.IsAbout id)
    (found : store.records.get? id = some stored)
    (answered : stored.answer decision = .ok receipt) :
    receipt.Holds id store (store.settle stored decision) := by
  obtain ⟨events, _, drained, _⟩ := receipt_of_answer answered
  have now := get?_settle_self about found answered
  constructor
  · rw [findById_of_found now, Registration.rehydrate_of_drained drained]
  · exact drained
  · exact version?_of_found now
  · rw [log_settle about, events]
  · intro other different
    exact get?_settle_of_ne about different
  · intro other different
    exact eventsOf_settle_of_ne about different

theorem reports_of_answer (answered : stored.answer decision = .ok receipt) :
    receipt.Reports stored decision store (store.settle stored decision) := by
  obtain ⟨events, failure, _, state⟩ := receipt_of_answer answered
  constructor
  · exact failure
  · intro registration kept
    rw [kept] at state
    rw [Transition.events_of_committed kept] at events
    exact ⟨state.2, events, state.1⟩
  · intro quiet
    have dropped : decision.committed? = none := by simpa [Transition.isCommit] using quiet
    rw [dropped] at state
    rw [Transition.events_of_not_committed dropped] at events
    exact ⟨state.2, events, state.1, settle_of_not_committed dropped⟩

theorem holds_save {registration : Registration} (store : Store) :
    (Store.receipt registration 1 none).Holds registration.id store
      { store.commit registration 1 with
        addresses := store.addresses.insert registration.email registration.id } := by
  have now : (store.commit registration 1).records.get? registration.id =
      some ⟨registration.toSnapshot, 1⟩ := by
    rw [get?_commit, if_pos rfl]
  constructor
  · exact findById_of_found now
  · rfl
  · exact version?_of_found now
  · rfl
  · intro other different
    exact (get?_commit store registration 1 other).trans (if_neg different)
  · intro other different
    change (store.log ++ number registration.id _ _).filter _ = _
    rw [List.filter_append, filter_number, if_neg (Ne.symm different), List.append_nil]
    rfl

inductive Refuses (store : Store) (key : Key) (mutation : Mutation) : RepositoryError → Prop
  | notFound {text : String}
      (missing : ∀ id, store.locate? key = some id → store.records.get? id = none) :
      Refuses store key mutation (.notFound text)
  | rejected {id : RegistrationId} {stored : StoredRegistration} {error : RegistrationError}
      (located : store.locate? key = some id) (found : store.records.get? id = some stored)
      (decided : stored.decision mutation = .reject error) :
      Refuses store key mutation (.rejected error)

/-- Calls either fail and leave the store alone, or do what their receipt says. -/
structure AllOrNothing (steps : List Step) (store : Store) : Prop where
  mutated : ∀ key mutation receipt after, mutateBy key mutation store = (.ok receipt, after) →
    ∃ id stored, store.locate? key = some id ∧ store.records.get? id = some stored ∧
      receipt.Holds id store after ∧
      receipt.Reports stored (stored.decision mutation) store after ∧
      after.addresses = store.addresses
  failed : ∀ key mutation error after, mutateBy key mutation store = (.error error, after) →
    store.Refuses key mutation error ∧ after = store
  saved : ∀ registration receipt after, save registration store = (.ok receipt, after) →
    store.records.get? registration.id = none ∧ receipt.Holds registration.id store after ∧
      receipt = Store.receipt registration 1 none ∧
      after.addresses = store.addresses.insert registration.email registration.id
  unsaved : ∀ registration error after, save registration store = (.error error, after) →
    store.records.get? registration.id ≠ none ∧ error = .alreadyExists registration.id ∧
      after = store
  /-- An address stands for the registration that was last saved for it. -/
  addressed : ∀ id stored, store.records.get? id = some stored →
    ∃ latest, latestSaved stored.snapshot.email steps = some latest ∧
      ∀ mutation, mutateBy (.email stored.snapshot.email) mutation store =
        mutateBy (.id latest) mutation store

end Store

/-! ### All or nothing -/

namespace Grounded

variable {steps : List Step} {store : Store}

theorem mutated (grounded : Grounded steps store) {key : Key} {mutation : Mutation}
    {receipt : Receipt} {after : Store}
    (called : Store.mutateBy key mutation store = (.ok receipt, after)) :
    ∃ id stored, store.locate? key = some id ∧ store.records.get? id = some stored ∧
      receipt.Holds id store after ∧
      receipt.Reports stored (stored.decision mutation) store after ∧
      after.addresses = store.addresses := by
  rcases store.mutateBy_cases key mutation with
    ⟨_, text, lost⟩ | ⟨id, stored, located, found, ended⟩
  · rw [lost] at called
    cases called
  · rw [ended] at called
    obtain ⟨answered, rfl⟩ := Prod.mk.inj called
    refine ⟨id, stored, located, found, ?_, ?_, Store.addresses_settle⟩
    · exact Store.holds_of_answer (grounded.isAbout found mutation) found answered
    · exact Store.reports_of_answer answered

theorem addressed (grounded : Grounded steps store) {id : RegistrationId}
    {stored : StoredRegistration} (found : store.records.get? id = some stored) :
    ∃ latest, latestSaved stored.snapshot.email steps = some latest ∧
      ∀ mutation, Store.mutateBy (.email stored.snapshot.email) mutation store =
        Store.mutateBy (.id latest) mutation store := by
  obtain ⟨latest, indexed⟩ := grounded.registered found
  refine ⟨latest, ?_, ?_⟩
  · rw [← grounded.indexed, indexed]
  · intro mutation
    exact Store.mutateBy_of_located indexed

end Grounded

theorem Store.refuses_of_failed (store : Store) {key : Key} {mutation : Mutation}
    {error : RepositoryError} {after : Store}
    (called : mutateBy key mutation store = (.error error, after)) :
    store.Refuses key mutation error ∧ after = store := by
  rcases store.mutateBy_cases key mutation with
    ⟨missing, text, lost⟩ | ⟨id, stored, located, found, ended⟩
  · rw [lost] at called
    obtain ⟨same, rfl⟩ := Prod.mk.inj called
    rw [← Except.error.inj same]
    exact ⟨.notFound missing, rfl⟩
  · rw [ended] at called
    obtain ⟨answered, rfl⟩ := Prod.mk.inj called
    cases decided : stored.decision mutation with
    | reject cause =>
        rw [decided] at answered
        rw [← Except.error.inj answered]
        exact ⟨.rejected located found decided, rfl⟩
    | unchanged | commit | commitAndFail =>
        rw [decided] at answered
        cases answered

/-- In every store that can be reached, each call either fails and leaves all of it alone, or
changes exactly what its receipt says. -/
theorem Run.allOrNothing {steps : List Step} {store : Store}
    (run : Run Access.IsSound steps store) : store.AllOrNothing steps := by
  have grounded := Grounded.of_run run
  constructor
  · intro key mutation receipt after called
    exact grounded.mutated called
  · intro key mutation error after called
    exact store.refuses_of_failed called
  · intro registration receipt after called
    cases present : store.records.get? registration.id with
    | some stored =>
        simp only [Store.save, present] at called
        cases called
    | none =>
        simp only [Store.save, present] at called
        obtain ⟨answered, rfl⟩ := Prod.mk.inj called
        rw [← Except.ok.inj answered]
        exact ⟨rfl, Store.holds_save store, rfl, rfl⟩
  · intro registration error after called
    cases present : store.records.get? registration.id with
    | some stored =>
        simp only [Store.save, present] at called
        obtain ⟨answered, rfl⟩ := Prod.mk.inj called
        exact ⟨Option.some_ne_none stored, (Except.error.inj answered).symm, rfl⟩
    | none =>
        simp only [Store.save, present] at called
        cases called
  · intro id stored found
    exact grounded.addressed found

/-! ### A sample -/

def Registration.rival : Registration :=
  issued (.uniform .epoch 0) ⟨⟨3, by decide⟩⟩ ⟨"a@b"⟩ ⟨"A"⟩ unanswered.codeExpiresAt
    unanswered.resendTimeout

def rivalry : List Access :=
  [.save .unanswered, .save .rival]

theorem run_rivalry : Run (Access.IsStandard (· = .brief)) (trace .empty rivalry)
    (Store.empty.afterAll rivalry) := by
  apply Run.start.append_trace rivalry
  intro access member
  rcases List.mem_cons.mp member with rfl | second
  · exact ⟨.brief, .uniform .epoch 0, _, "a@b", rfl, rfl⟩
  · rw [List.mem_singleton.mp second]
    exact ⟨.brief, .uniform .epoch 0, _, "a@b", rfl, rfl⟩

theorem allOrNothing_after_rivalry :
    Run Access.IsSound (trace .empty rivalry) (Store.empty.afterAll rivalry) ∧
      (Store.empty.afterAll rivalry).AllOrNothing (trace .empty rivalry) ∧
      ∃ receipt after, Store.mutateBy (.email ⟨"a@b"⟩) (.ofOperation (.brief (.verify "B")))
          (Store.empty.afterAll rivalry) = (.ok receipt, after) ∧
        receipt.version = 2 ∧ receipt.failure = some (.codeMismatch 1) := by
  exact ⟨run_rivalry.isSound, run_rivalry.isSound.allOrNothing, _, _, rfl, rfl, rfl⟩

end Enrolment
