/-
Calls about different registrations do not notice each other. A decision reads one record
and writes one record, and the rest of what it does is to put events at the end of the
log; so two of them can change places, and only the order of the new events tells.
-/

import Enrolment.Proofs.Receipt

namespace Enrolment

namespace Store

def inTurn (first second : StorageCall Store Receipt) (store : Store) :
    Except RepositoryError Receipt × Except RepositoryError Receipt × Store :=
  let (answer, between) := first store
  let (reply, after) := second between
  (answer, reply, after)

/-- Both stores come of the same new events of two registrations, in the one or the other
order, and agree in all but the places of these events in the log. -/
structure Interleave (store : Store) (first second : RegistrationId) (forth back : Store) :
    Prop where
  records : ∀ id, forth.records.get? id = back.records.get? id
  addresses : forth.addresses = back.addresses
  events : ∀ id, (forth.eventsOf id).map StoredEvent.event =
    (back.eventsOf id).map StoredEvent.event
  elsewhere : ∀ id, id ≠ first → id ≠ second → forth.eventsOf id = back.eventsOf id
  log : ∃ ofFirst ofSecond : List Event,
    forth.log = store.log ++ number first (store.log.length + 1) ofFirst ++
      number second (store.log.length + ofFirst.length + 1) ofSecond ∧
    back.log = store.log ++ number second (store.log.length + 1) ofSecond ++
      number first (store.log.length + ofSecond.length + 1) ofFirst

section Settlement

variable {store other : Store} {id : RegistrationId} {stored : StoredRegistration}
  {decision : Transition}

theorem locate?_settle (key : Key) :
    (store.settle stored decision).locate? key = store.locate? key := by
  cases key with
  | id known => rfl
  | email email => exact congrArg (·.get? email) addresses_settle

/-- What a decision makes of a record depends on nothing but that record. -/
theorem get?_settle_congr (same : store.records.get? id = other.records.get? id) :
    (store.settle stored decision).records.get? id =
      (other.settle stored decision).records.get? id := by
  cases kept : decision.committed? with
  | none =>
      rw [settle_of_not_committed kept, settle_of_not_committed kept]
      exact same
  | some registration =>
      rw [settle_of_committed kept, settle_of_committed kept, get?_commit, get?_commit, same]

theorem told_settle (about : decision.IsAbout id) (name : RegistrationId) :
    ((store.settle stored decision).eventsOf name).map StoredEvent.event =
      (store.eventsOf name).map StoredEvent.event ++
        if id = name then decision.events else [] := by
  rw [eventsOf_settle about, List.map_append]
  split
  · rw [number_event]
  · rfl

theorem length_log_settle (about : decision.IsAbout id) :
    (store.settle stored decision).log.length =
      store.log.length + decision.events.length := by
  rw [log_settle about, List.length_append, number_length]

end Settlement

section Pair

variable {store : Store} {first second : RegistrationId} {one two : StoredRegistration}
  {left right : Transition}

theorem get?_settle_swap (about : right.IsAbout second) {id : RegistrationId}
    (different : id ≠ second) :
    ((store.settle one left).settle two right).records.get? id =
      ((store.settle two right).settle one left).records.get? id := by
  have unread : (store.settle two right).records.get? id = store.records.get? id :=
    get?_settle_of_ne about different
  calc ((store.settle one left).settle two right).records.get? id
      = (store.settle one left).records.get? id := get?_settle_of_ne about different
    _ = ((store.settle two right).settle one left).records.get? id :=
        get?_settle_congr unread.symm

theorem log_settle_settle (aboutLeft : left.IsAbout first) (aboutRight : right.IsAbout second) :
    ((store.settle one left).settle two right).log =
      store.log ++ number first (store.log.length + 1) left.events ++
        number second (store.log.length + left.events.length + 1) right.events := by
  rw [log_settle aboutRight, length_log_settle aboutLeft, log_settle aboutLeft]

theorem interleave_settle (apart : first ≠ second) (aboutLeft : left.IsAbout first)
    (aboutRight : right.IsAbout second) :
    store.Interleave first second ((store.settle one left).settle two right)
      ((store.settle two right).settle one left) := by
  constructor
  · intro id
    by_cases isSecond : id = second
    · have notFirst : id ≠ first := fun isFirst => apart (isFirst.symm.trans isSecond)
      exact (get?_settle_swap aboutLeft notFirst).symm
    · exact get?_settle_swap aboutRight isSecond
  · rw [addresses_settle, addresses_settle, addresses_settle, addresses_settle]
  · intro id
    rw [told_settle aboutRight, told_settle aboutLeft, told_settle aboutLeft,
      told_settle aboutRight, List.append_assoc, List.append_assoc]
    by_cases isSecond : second = id
    · have notFirst : first ≠ id := fun isFirst => apart (isFirst.trans isSecond.symm)
      rw [if_neg notFirst, List.append_nil, List.nil_append]
    · rw [if_neg isSecond, List.append_nil, List.nil_append]
  · intro id notFirst notSecond
    rw [eventsOf_settle_of_ne aboutRight notSecond, eventsOf_settle_of_ne aboutLeft notFirst,
      eventsOf_settle_of_ne aboutLeft notFirst, eventsOf_settle_of_ne aboutRight notSecond]
  · exact ⟨left.events, right.events, log_settle_settle aboutLeft aboutRight,
      log_settle_settle aboutRight aboutLeft⟩

end Pair

/-- The second of two calls finds its registration as if there had been no first one. -/
theorem inTurn_of_found {store : Store} {firstKey secondKey : Key} {first second : RegistrationId}
    {one two : StoredRegistration} (firstLocated : store.locate? firstKey = some first)
    (firstFound : store.records.get? first = some one)
    (secondLocated : store.locate? secondKey = some second)
    (secondFound : store.records.get? second = some two) (apart : first ≠ second)
    (mutation other : Mutation) (about : (one.decision mutation).IsAbout first) :
    inTurn (mutateBy firstKey mutation) (mutateBy secondKey other) store =
      (one.answer (one.decision mutation), two.answer (two.decision other),
        (store.settle one (one.decision mutation)).settle two (two.decision other)) := by
  have located : (store.settle one (one.decision mutation)).locate? secondKey = some second := by
    rw [locate?_settle, secondLocated]
  have found : (store.settle one (one.decision mutation)).records.get? second = some two := by
    rw [get?_settle_of_ne about (Ne.symm apart), secondFound]
  unfold inTurn
  rw [mutateBy_of_found firstLocated firstFound]
  dsimp only
  rw [mutateBy_of_found located found]

end Store

/-- Whichever of two units of work on different registrations comes first, each gets the same
answer, and the stores differ in the order of the new events alone. -/
theorem Run.interchange {steps : List Step} {store : Store}
    (run : Run Access.IsSound steps store) {firstKey secondKey : Key}
    {first second : RegistrationId} {one two : StoredRegistration}
    (firstLocated : store.locate? firstKey = some first)
    (firstFound : store.records.get? first = some one)
    (secondLocated : store.locate? secondKey = some second)
    (secondFound : store.records.get? second = some two) (apart : first ≠ second)
    (mutation other : Mutation) :
    ∃ answer reply forth back,
      Store.inTurn (Store.mutateBy firstKey mutation) (Store.mutateBy secondKey other) store =
        (answer, reply, forth) ∧
      Store.inTurn (Store.mutateBy secondKey other) (Store.mutateBy firstKey mutation) store =
        (reply, answer, back) ∧
      store.Interleave first second forth back := by
  have grounded := Grounded.of_run run
  have aboutFirst := grounded.isAbout firstFound mutation
  have aboutSecond := grounded.isAbout secondFound other
  have forth := Store.inTurn_of_found firstLocated firstFound secondLocated secondFound apart
    mutation other aboutFirst
  have back := Store.inTurn_of_found secondLocated secondFound firstLocated firstFound
    (Ne.symm apart) other mutation aboutSecond
  exact ⟨_, _, _, _, forth, back, Store.interleave_settle apart aboutFirst aboutSecond⟩

/-- Both of the rivals are verified; each order gives a log of its own. -/
theorem interchange_of_rivals :
    Run Access.IsSound (trace .empty rivalry) (Store.empty.afterAll rivalry) ∧
      Registration.unanswered.id ≠ Registration.rival.id ∧
      ∃ answer reply forth back,
        Store.inTurn
            (Store.mutateBy (.id ⟨.nil⟩) (.ofOperation (.brief (.verify "A"))))
            (Store.mutateBy (.email ⟨"a@b"⟩) (.ofOperation (.brief (.verify "A"))))
            (Store.empty.afterAll rivalry) = (answer, reply, forth) ∧
        Store.inTurn
            (Store.mutateBy (.email ⟨"a@b"⟩) (.ofOperation (.brief (.verify "A"))))
            (Store.mutateBy (.id ⟨.nil⟩) (.ofOperation (.brief (.verify "A"))))
            (Store.empty.afterAll rivalry) = (reply, answer, back) ∧
        (Store.empty.afterAll rivalry).Interleave Registration.unanswered.id
          Registration.rival.id forth back := by
  have apart : Registration.unanswered.id ≠ Registration.rival.id := by decide
  exact ⟨run_rivalry.isSound, apart,
    run_rivalry.isSound.interchange rfl rfl rfl rfl apart _ _⟩

end Enrolment
