/-
What every run keeps true of the store: the log is numbered without gaps and tells
of stored registrations only, the index leads from each address to the registration
that was last saved for it, versions count the changes, and a registration stays
the one that was saved.
-/

import Enrolment.Proofs.Run
import Mathlib.Data.List.Basic

namespace Enrolment

/-! ### Numbered events -/

namespace Store

theorem number_event (id : RegistrationId) (first : Nat) (events : List Event) :
    (number id first events).map StoredEvent.event = events := by
  induction events generalizing first with
  | nil => rfl
  | cons event rest ih => rw [number, List.map_cons, ih]

theorem number_sequence (id : RegistrationId) (first : Nat) (events : List Event) :
    (number id first events).map StoredEvent.sequence = List.range' first events.length := by
  induction events generalizing first with
  | nil => rfl
  | cons event rest ih => rw [number, List.map_cons, ih, List.length_cons, List.range'_succ]

theorem number_length (id : RegistrationId) (first : Nat) (events : List Event) :
    (number id first events).length = events.length := by
  rw [← List.length_map StoredEvent.event, number_event]

theorem number_append (id : RegistrationId) (first : Nat) (events more : List Event) :
    number id first (events ++ more) =
      number id first events ++ number id (first + events.length) more := by
  induction events generalizing first with
  | nil => rfl
  | cons event rest ih =>
      rw [List.cons_append, number, ih, number, List.cons_append, List.length_cons,
        Nat.add_comm rest.length 1, Nat.add_assoc]

theorem mem_number {id : RegistrationId} {first : Nat} {events : List Event}
    {stored : StoredEvent} (member : stored ∈ number id first events) :
    stored.registrationId = id ∧ stored.event ∈ events := by
  induction events generalizing first with
  | nil => cases member
  | cons event rest ih =>
      rw [number, List.mem_cons] at member
      rcases member with rfl | later
      · exact ⟨rfl, List.mem_cons_self⟩
      · exact ⟨(ih later).1, List.mem_cons_of_mem _ (ih later).2⟩

theorem get?_commit (store : Store) (registration : Registration) (version : Nat)
    (id : RegistrationId) :
    (store.commit registration version).records.get? id =
      if id = registration.id then some { snapshot := registration.toSnapshot, version }
      else store.records.get? id :=
  Table.get?_insert _ _ _ _

theorem numbered_commit {store : Store} (registration : Registration) (version : Nat)
    (numbered : store.log.map StoredEvent.sequence = List.range' 1 store.log.length) :
    (store.commit registration version).log.map StoredEvent.sequence =
      List.range' 1 (store.commit registration version).log.length := by
  simp only [commit, List.map_append, numbered, number_sequence, List.length_append,
    number_length]
  rw [Nat.add_comm store.log.length 1, List.range'_append_1]

theorem keyed_commit {store : Store} (registration : Registration) (version : Nat)
    (keyed : ∀ id record, store.records.get? id = some record → record.snapshot.id = id) :
    ∀ id record, (store.commit registration version).records.get? id = some record →
      record.snapshot.id = id := by
  intro id record found
  rw [get?_commit] at found
  split at found
  · next same =>
      rw [← Option.some.inj found]
      exact same.symm
  · exact keyed id record found

theorem owned_commit {store : Store} {registration : Registration} (version : Nat)
    (tells : registration.TellsOfItself)
    (owned : ∀ stored ∈ store.log, stored.registrationId = stored.event.registrationId ∧
      ∃ record, store.records.get? stored.registrationId = some record) :
    ∀ stored ∈ (store.commit registration version).log,
      stored.registrationId = stored.event.registrationId ∧
        ∃ record, (store.commit registration version).records.get? stored.registrationId =
          some record := by
  intro stored member
  rw [get?_commit]
  rcases List.mem_append.mp member with earlier | new
  · obtain ⟨same, record, found⟩ := owned stored earlier
    refine ⟨same, ?_⟩
    split
    · exact ⟨_, rfl⟩
    · exact ⟨record, found⟩
  · obtain ⟨id, recorded⟩ := mem_number new
    refine ⟨id.trans (tells stored.event recorded).2.1.symm, ?_⟩
    rw [if_pos id]
    exact ⟨_, rfl⟩

end Store

/-! ### What a step saves and commits -/

namespace Step

variable {step : Step}

theorem saved?_of_save {registration : Registration} (access : step.access = .save registration)
    (absent : step.before.records.get? registration.id = none) :
    step.saved? = some registration := by
  simp [saved?, access, absent]

theorem saved?_of_mutation {mutation : Mutation} (unit : step.access.mutation? = some mutation) :
    step.saved? = none := by
  cases access : step.access with
  | save | find => rw [access] at unit; cases unit
  | operate | mutate => simp [saved?, access]

theorem commits_of_save {registration : Registration} (access : step.access = .save registration)
    (id : RegistrationId) : step.commits id = false := by
  simp [commits, target?, access, Access.key?]

theorem commits_of_kept {id : RegistrationId} {stored : StoredRegistration}
    {mutation : Mutation} {registration : Registration}
    (unit : step.access.mutation? = some mutation) (target : step.target? = some id)
    (found : step.before.records.get? id = some stored)
    (kept : (mutation.run (.rehydrate stored.snapshot)).committed? = some registration)
    (other : RegistrationId) : step.commits other = decide (other = id) := by
  have decided : step.transition? = some (mutation.run (.rehydrate stored.snapshot)) := by
    simp [transition?, unit, target, found]
  by_cases same : other = id
  · simp [commits, same, target, decided, Transition.isCommit, kept]
  · simp [commits, same, Ne.symm same, target]

end Step

def savedIn (steps : List Step) : List Registration :=
  steps.filterMap Step.saved?

def latestSaved (email : Email) (steps : List Step) : Option RegistrationId :=
  ((savedIn steps).filter (·.email = email)).getLast?.map (·.id)

theorem savedIn_concat (steps : List Step) (step : Step) :
    savedIn (steps ++ [step]) = savedIn steps ++ step.saved?.toList := by
  rw [savedIn, savedIn, List.filterMap_append]
  cases saved : step.saved? <;> simp [saved]

theorem latestSaved_concat_of_none {steps : List Step} {step : Step} (email : Email)
    (notSaved : step.saved? = none) :
    latestSaved email (steps ++ [step]) = latestSaved email steps := by
  rw [latestSaved, latestSaved, savedIn_concat, notSaved]
  simp

theorem latestSaved_concat_of_saved {steps : List Step} {step : Step}
    {registration : Registration} (email : Email) (saved : step.saved? = some registration) :
    latestSaved email (steps ++ [step]) =
      if email = registration.email then some registration.id else latestSaved email steps := by
  rw [latestSaved, latestSaved, savedIn_concat, saved, Option.toList_some, List.filter_append]
  by_cases same : email = registration.email
  · rw [if_pos same]
    simp [same]
  · rw [if_neg same]
    simp [Ne.symm same]

/-! ### Consistency -/

/-- Accesses in which only registrations are saved that a caller can get hold of. -/
def Access.IsSound : Access → Prop
  | .save registration => registration.Built
  | .find _ | .operate _ _ | .mutate _ _ => True

/-- What each step of a run keeps true of the store. -/
structure Grounded (steps : List Step) (store : Store) : Prop where
  numbered : store.log.map StoredEvent.sequence = List.range' 1 store.log.length
  owned : ∀ stored ∈ store.log, stored.registrationId = stored.event.registrationId ∧
    ∃ record, store.records.get? stored.registrationId = some record
  keyed : ∀ id record, store.records.get? id = some record → record.snapshot.id = id
  indexed : ∀ email, store.addresses.get? email = latestSaved email steps
  /-- A record keeps the identity under which it was saved. -/
  kept : ∀ saved ∈ savedIn steps, ∃ record, store.records.get? saved.id = some record ∧
    record.snapshot.identity = saved.identity
  origin : ∀ id record, store.records.get? id = some record → ∃ saved ∈ savedIn steps,
    saved.identity = record.snapshot.identity
  versioned : ∀ id record, store.records.get? id = some record →
    record.version = 1 + steps.countP (·.commits id)
  uncommitted : ∀ id, store.records.get? id = none → steps.countP (·.commits id) = 0

namespace Grounded

theorem empty : Grounded [] .empty where
  numbered := rfl
  owned := by intro stored member; cases member
  keyed := by intro id record found; cases found
  indexed := fun email => rfl
  kept := by intro saved member; cases member
  origin := by intro id record found; cases found
  versioned := by intro id record found; cases found
  uncommitted := fun id absent => rfl

variable {steps : List Step} {step : Step}

/-- A unit of work keeps the name under which the registration is stored. -/
theorem id_of_committed {store : Store} (grounded : Grounded steps store) {id : RegistrationId}
    {stored : StoredRegistration} {mutation : Mutation} {registration : Registration}
    (found : store.records.get? id = some stored)
    (kept : (mutation.run (.rehydrate stored.snapshot)).committed? = some registration) :
    registration.id = id :=
  (Mutation.id_of_committed kept).trans (grounded.keyed id stored found)

private theorem of_none (grounded : Grounded steps step.before) (notSaved : step.saved? = none)
    (notCommitted : ∀ id, step.commits id = false) :
    Grounded (steps ++ [step]) step.before where
  numbered := grounded.numbered
  owned := grounded.owned
  keyed := grounded.keyed
  indexed := fun email => by
    rw [latestSaved_concat_of_none email notSaved, grounded.indexed]
  kept := by
    rw [savedIn_concat, notSaved, Option.toList_none, List.append_nil]
    exact grounded.kept
  origin := by
    rw [savedIn_concat, notSaved, Option.toList_none, List.append_nil]
    exact grounded.origin
  versioned := by
    intro id record found
    simp only [List.countP_append, List.countP_singleton, notCommitted]
    exact grounded.versioned id record found
  uncommitted := by
    intro id absent
    simp only [List.countP_append, List.countP_singleton, notCommitted]
    exact grounded.uncommitted id absent

private theorem of_saved (grounded : Grounded steps step.before) {registration : Registration}
    (built : registration.Built) (access : step.access = .save registration)
    (absent : step.before.records.get? registration.id = none) :
    Grounded (steps ++ [step])
      { step.before.commit registration 1 with
        addresses := step.before.addresses.insert registration.email registration.id } := by
  have isSaved : step.saved? = some registration := Step.saved?_of_save access absent
  have savedNow : savedIn (steps ++ [step]) = savedIn steps ++ [registration] := by
    rw [savedIn_concat, isSaved, Option.toList_some]
  have count (id : RegistrationId) :
      (steps ++ [step]).countP (·.commits id) = steps.countP (·.commits id) := by
    simp [List.countP_append, Step.commits_of_save access]
  refine
    { numbered := Store.numbered_commit registration 1 grounded.numbered
      owned := Store.owned_commit 1 built.tellsOfItself grounded.owned
      keyed := Store.keyed_commit registration 1 grounded.keyed
      indexed := ?_
      kept := ?_
      origin := ?_
      versioned := ?_
      uncommitted := ?_ }
  · intro email
    rw [latestSaved_concat_of_saved email isSaved, ← grounded.indexed]
    exact Table.get?_insert _ _ _ _
  · intro saved member
    rw [Store.get?_commit]
    rw [savedNow, List.mem_append, List.mem_singleton] at member
    rcases member with earlier | rfl
    · obtain ⟨record, found, identity⟩ := grounded.kept saved earlier
      have different : saved.id ≠ registration.id := by
        intro same
        rw [same, absent] at found
        cases found
      rw [if_neg different]
      exact ⟨record, found, identity⟩
    · rw [if_pos rfl]
      exact ⟨_, rfl, rfl⟩
  · intro id record found
    rw [savedNow]
    rw [Store.get?_commit] at found
    split at found
    · rw [← Option.some.inj found]
      exact ⟨registration, List.mem_append_right _ List.mem_cons_self, rfl⟩
    · obtain ⟨saved, member, identity⟩ := grounded.origin id record found
      exact ⟨saved, List.mem_append_left _ member, identity⟩
  · intro id record found
    rw [count]
    rw [Store.get?_commit] at found
    split at found
    · next same =>
        rw [← Option.some.inj found, grounded.uncommitted id (same ▸ absent)]
    · exact grounded.versioned id record found
  · intro id missing
    rw [count]
    rw [Store.get?_commit] at missing
    split at missing
    · cases missing
    · exact grounded.uncommitted id missing

private theorem of_committed (grounded : Grounded steps step.before) {id : RegistrationId}
    {stored : StoredRegistration} {mutation : Mutation} {registration : Registration}
    (unit : step.access.mutation? = some mutation) (target : step.target? = some id)
    (found : step.before.records.get? id = some stored)
    (kept : (mutation.run (.rehydrate stored.snapshot)).committed? = some registration) :
    Grounded (steps ++ [step]) (step.before.commit registration (stored.version + 1)) := by
  obtain ⟨identity, tells⟩ := mutation.identity_of_committed kept
  have sameId : registration.id = id := grounded.id_of_committed found kept
  have savedNow : savedIn (steps ++ [step]) = savedIn steps := by
    rw [savedIn_concat, Step.saved?_of_mutation unit, Option.toList_none, List.append_nil]
  have count (other : RegistrationId) :
      (steps ++ [step]).countP (·.commits other) =
        steps.countP (·.commits other) + if other = id then 1 else 0 := by
    simp [List.countP_append, Step.commits_of_kept unit target found kept,
      List.countP_singleton]
  refine
    { numbered := Store.numbered_commit registration _ grounded.numbered
      owned := Store.owned_commit _ tells grounded.owned
      keyed := Store.keyed_commit registration _ grounded.keyed
      indexed := ?_
      kept := ?_
      origin := ?_
      versioned := ?_
      uncommitted := ?_ }
  · intro email
    rw [latestSaved_concat_of_none email (Step.saved?_of_mutation unit)]
    exact grounded.indexed email
  · intro saved member
    rw [savedNow] at member
    obtain ⟨record, before, same⟩ := grounded.kept saved member
    rw [Store.get?_commit, sameId]
    split
    · next reached =>
        rw [reached, found] at before
        rw [← Option.some.inj before] at same
        exact ⟨_, rfl, identity.trans same⟩
    · exact ⟨record, before, same⟩
  · intro other record present
    rw [savedNow]
    rw [Store.get?_commit, sameId] at present
    split at present
    · obtain ⟨saved, member, same⟩ := grounded.origin id stored found
      rw [← Option.some.inj present]
      exact ⟨saved, member, same.trans identity.symm⟩
    · exact grounded.origin other record present
  · intro other record present
    rw [count]
    rw [Store.get?_commit, sameId] at present
    split at present
    · next reached =>
        have version := grounded.versioned id stored found
        rw [← Option.some.inj present, if_pos reached, reached]
        dsimp only
        omega
    · next unreached =>
        rw [if_neg unreached]
        exact grounded.versioned other record present
  · intro other missing
    rw [count]
    rw [Store.get?_commit, sameId] at missing
    split at missing
    · cases missing
    · next unreached =>
        rw [if_neg unreached]
        exact grounded.uncommitted other missing

theorem next (grounded : Grounded steps step.before) (sound : step.access.IsSound) :
    Grounded (steps ++ [step]) step.after := by
  have effect := step.effect
  generalize step.after = after at effect
  cases effect with
  | none notSaved notCommitted => exact grounded.of_none notSaved notCommitted
  | saved access absent =>
      rw [access] at sound
      exact grounded.of_saved sound access absent
  | committed unit target found kept => exact grounded.of_committed unit target found kept

theorem of_run {store : Store} (run : Run Access.IsSound steps store) :
    Grounded steps store := by
  induction run with
  | start => exact empty
  | @next steps store earlier access permitted ih =>
      exact next ih permitted

end Grounded

structure Consistent (steps : List Step) (store : Store) : Prop extends
    Grounded steps store where
  reached : ∀ email id, store.addresses.get? email = some id → ∃ record,
    store.records.get? id = some record ∧ record.snapshot.email = email
  registered : ∀ id record, store.records.get? id = some record → ∃ latest,
    store.addresses.get? record.snapshot.email = some latest
  /-- A record that was there before any step of the run is still there, with the same
  identity. -/
  permanent : ∀ step ∈ steps, ∀ id old, step.before.records.get? id = some old → ∃ record,
    store.records.get? id = some record ∧ record.snapshot.identity = old.snapshot.identity
  /-- Once the index has led to a registration, its record is never missing. -/
  resolved : ∀ email id, store.latest email = .ok id → ∃ record, store.record id = .ok record

namespace Grounded

variable {steps : List Step} {store : Store}

theorem reached (grounded : Grounded steps store) {email : Email} {id : RegistrationId}
    (indexed : store.addresses.get? email = some id) :
    ∃ record, store.records.get? id = some record ∧ record.snapshot.email = email := by
  rw [grounded.indexed, latestSaved, Option.map_eq_some_iff] at indexed
  obtain ⟨saved, last, rfl⟩ := indexed
  have member := List.mem_of_getLast? last
  rw [List.mem_filter, decide_eq_true_eq] at member
  obtain ⟨record, found, identity⟩ := grounded.kept saved member.1
  exact ⟨record, found, (congrArg Identity.email identity).trans member.2⟩

theorem registered (grounded : Grounded steps store) {id : RegistrationId}
    {record : StoredRegistration} (found : store.records.get? id = some record) :
    ∃ latest, store.addresses.get? record.snapshot.email = some latest := by
  obtain ⟨saved, member, identity⟩ := grounded.origin id record found
  have address : saved.email = record.snapshot.email := congrArg Identity.email identity
  have candidate : saved ∈ (savedIn steps).filter (·.email = record.snapshot.email) :=
    List.mem_filter.mpr ⟨member, decide_eq_true address⟩
  rw [grounded.indexed, latestSaved]
  cases last : ((savedIn steps).filter (·.email = record.snapshot.email)).getLast? with
  | none =>
      rw [List.getLast?_eq_none_iff.mp last] at candidate
      cases candidate
  | some latest => exact ⟨latest.id, rfl⟩

theorem permanent {step : Step} (grounded : Grounded steps store)
    (run : Run Access.IsSound steps store) (member : step ∈ steps) {id : RegistrationId}
    {old : StoredRegistration} (found : step.before.records.get? id = some old) :
    ∃ record, store.records.get? id = some record ∧
      record.snapshot.identity = old.snapshot.identity := by
  obtain ⟨earlier, later, rfl⟩ := List.append_of_mem member
  have before : Grounded earlier step.before := of_run run.split.1
  obtain ⟨saved, savedBefore, identity⟩ := before.origin id old found
  have sameId : saved.id = id :=
    (congrArg Identity.id identity).trans (before.keyed id old found)
  have savedStill : saved ∈ savedIn (earlier ++ step :: later) := by
    rw [savedIn, List.filterMap_append]
    exact List.mem_append_left _ savedBefore
  obtain ⟨record, still, same⟩ := grounded.kept saved savedStill
  rw [sameId] at still
  exact ⟨record, still, same.trans identity⟩

theorem resolved (grounded : Grounded steps store) {email : Email} {id : RegistrationId}
    (latest : store.latest email = .ok id) : ∃ record, store.record id = .ok record := by
  have indexed : store.addresses.get? email = some id := by
    unfold Store.latest at latest
    split at latest
    · next known indexed => rw [indexed, Except.ok.inj latest]
    · cases latest
  obtain ⟨record, found, _⟩ := grounded.reached indexed
  exact ⟨record, by simp [Store.record, found]⟩

end Grounded

/-- Every store that can be reached is consistent with the run that led to it. -/
theorem Run.consistent {steps : List Step} {store : Store}
    (run : Run Access.IsSound steps store) : Consistent steps store := by
  have grounded := Grounded.of_run run
  exact
    { grounded with
      reached := fun email id indexed => grounded.reached indexed
      registered := fun id record found => grounded.registered found
      permanent := fun step member id old found => grounded.permanent run member found
      resolved := fun email id latest => grounded.resolved latest }

def Time.Instant.epoch : Time.Instant :=
  ⟨0, 0, by decide⟩

def takeover : List Access :=
  let registration (number : Nat) (bounded : number < Nat.pow 2 128) : Registration :=
    .rehydrate
      { id := ⟨⟨number, bounded⟩⟩, email := ⟨"a@b"⟩, status := .pending, code := ⟨"A"⟩
        attempts := 0, codeExpiresAt := .epoch, resendTimeout := .epoch, createdAt := .epoch
        updatedAt := .epoch }
  let occasion : Occasion :=
    { now := .epoch, correlationId := .nil, eventId := .nil, verificationId := .nil
      entropy := [] }
  let verification : Operation := { command := .verify "A", policy := .defaults, occasion }
  [.save (registration 1 (by decide)), .save (registration 2 (by decide)),
    .mutate (.email ⟨"a@b"⟩)
      { name := "batch"
        script := .perform verification fun _ => .takeEvents fun _ => .finish (.ok ()) }]

theorem consistent_after_takeover :
    Run Access.IsSound (trace .empty takeover) (Store.empty.afterAll takeover) ∧
      Consistent (trace .empty takeover) (Store.empty.afterAll takeover) ∧
      (Store.empty.afterAll takeover).version? ⟨⟨2, by decide⟩⟩ = some 2 := by
  have permitted : ∀ access ∈ takeover, access.IsSound := by
    intro access member
    simp only [takeover, List.mem_cons, List.not_mem_nil, or_false] at member
    rcases member with rfl | rfl | rfl
    · exact .rehydrate _
    · exact .rehydrate _
    · trivial
  have run : Run Access.IsSound (trace .empty takeover) (Store.empty.afterAll takeover) :=
    Run.start.append_trace takeover permitted
  exact ⟨run, run.consistent, by decide⟩

end Enrolment
