/-
Which histories a registration can have, as a regular language of kinds of events, and
how the last event goes together with the stored status. Expiry is the one change of
status that leaves no event behind; the time of a step accounts for it instead.
-/

import Enrolment.Proofs.Life
import Mathlib.Computability.Language

namespace Enrolment

open Computability

/-! ### Legal histories -/

namespace EventKind

def interruptions : Language EventKind :=
  {[], [.emailVerified], [.failed]}

def endings : Language EventKind :=
  {[], [.emailVerified], [.failed], [.emailVerified, .studentCompleted],
    [.emailVerified, .staffCompleted]}

def histories : Language EventKind :=
  {[.started]} * (interruptions * {[.codeResent]})∗ * endings

end EventKind

/-- Histories up to the last code that was sent. -/
inductive Sending : List EventKind → Prop
  | started : Sending [.started]
  | resent {kinds interruption : List EventKind} (sending : Sending kinds)
      (interrupted : interruption ∈ EventKind.interruptions) :
      Sending (kinds ++ (interruption ++ [.codeResent]))

inductive Closing : Status → List EventKind → Prop
  | pending : Closing .pending []
  | lapsed : Closing .expired []
  | exhausted : Closing .expired [.failed]
  | verified : Closing .verified [.emailVerified]
  | completed (account : Account) (passwordHash : PasswordHash) :
      Closing .completed [.emailVerified, (EventBody.completed account passwordHash).kind]

namespace Sending

private theorem kstar_absorbs {language : Language EventKind} {front back : List EventKind}
    (isFront : front ∈ language∗) (isBack : back ∈ language) : front ++ back ∈ language∗ :=
  Set.mem_of_mem_of_subset (Language.append_mem_mul isFront isBack)
    (kstar_mul_le_kstar (a := language))

theorem mem {kinds : List EventKind} (sending : Sending kinds) :
    kinds ∈ ({[.started]} * (EventKind.interruptions * {[.codeResent]})∗ :
      Language EventKind) := by
  induction sending with
  | started =>
      exact Language.mem_mul.mpr ⟨[.started], rfl, [], Language.nil_mem_kstar _, rfl⟩
  | @resent kinds interruption sending interrupted ih =>
      obtain ⟨first, isStart, rest, isRest, rfl⟩ := Language.mem_mul.mp ih
      have sent : interruption ++ [.codeResent] ∈
          (EventKind.interruptions * {[.codeResent]} : Language EventKind) :=
        Language.append_mem_mul interrupted rfl
      rw [List.append_assoc]
      exact Language.append_mem_mul isStart (kstar_absorbs isRest sent)

theorem getLast? {kinds : List EventKind} (sending : Sending kinds) :
    kinds.getLast? = some .started ∨ kinds.getLast? = some .codeResent := by
  cases sending with
  | started => exact Or.inl rfl
  | resent => exact Or.inr (by simp)

end Sending

namespace Closing

variable {status : Status} {closing : List EventKind}

theorem mem_interruptions (closes : Closing status closing) (notCompleted : status ≠ .completed) :
    closing ∈ EventKind.interruptions := by
  cases closes with
  | pending | lapsed => exact Or.inl rfl
  | verified => exact Or.inr (Or.inl rfl)
  | exhausted => exact Or.inr (Or.inr rfl)
  | completed => exact absurd rfl notCompleted

theorem mem_endings (closes : Closing status closing) : closing ∈ EventKind.endings := by
  cases closes with
  | pending | lapsed => exact Or.inl rfl
  | verified => exact Or.inr (Or.inl rfl)
  | exhausted => exact Or.inr (Or.inr (Or.inl rfl))
  | completed account passwordHash =>
      cases account with
      | student => exact Or.inr (Or.inr (Or.inr (Or.inl rfl)))
      | staff => exact Or.inr (Or.inr (Or.inr (Or.inr rfl)))

theorem eq_nil_of_pending (closes : Closing .pending closing) : closing = [] := by
  cases closes
  rfl

theorem eq_of_verified (closes : Closing .verified closing) : closing = [.emailVerified] := by
  cases closes
  rfl

end Closing

/-! ### The history of a life -/

/-- The step was kept at a time that was past the deadline of the stored code. -/
def Step.IsLate (step : Step) (id : RegistrationId) (codeExpiresAt : Time.Instant) : Prop :=
  step.commits id = true ∧ ∃ operation stored, step.access.operation? = some operation ∧
    step.before.records.get? id = some stored ∧
    stored.snapshot.codeExpiresAt = codeExpiresAt ∧ codeExpiresAt < operation.occasion.now

structure Fits (id : RegistrationId) (steps : List Step) (snapshot : Snapshot)
    (sending closing : List EventKind) : Prop where
  kinds : (told id steps).map Event.kind = sending ++ closing
  sends : Sending sending
  closes : Closing snapshot.status closing
  late : snapshot.status = .expired → closing = [] →
    ∃ step ∈ steps, step.IsLate id snapshot.codeExpiresAt

namespace Fits

variable {id : RegistrationId} {steps : List Step} {step : Step} {snapshot : Snapshot}
  {sending closing : List EventKind}

theorem quiet (fits : Fits id steps snapshot sending closing) (tells : step.told id = []) :
    Fits id (steps ++ [step]) snapshot sending closing where
  kinds := by
    simp only [told_append, told_cons, told_nil, tells, List.append_nil]
    exact fits.kinds
  sends := fits.sends
  closes := fits.closes
  late := by
    intro expired silent
    obtain ⟨late, member, isLate⟩ := fits.late expired silent
    exact ⟨late, List.mem_append_left _ member, isLate⟩

theorem next (fits : Fits id steps snapshot sending closing) {after : Snapshot}
    {nextSending nextClosing : List EventKind}
    (kinds : sending ++ closing ++ (step.told id).map Event.kind = nextSending ++ nextClosing)
    (sends : Sending nextSending) (closes : Closing after.status nextClosing)
    (late : after.status = .expired → nextClosing = [] → step.IsLate id after.codeExpiresAt) :
    Fits id (steps ++ [step]) after nextSending nextClosing where
  kinds := by
    simp only [told_append, told_cons, told_nil, List.append_nil, List.map_append, fits.kinds]
    exact kinds
  sends := sends
  closes := closes
  late := by
    intro expired silent
    exact ⟨step, List.mem_append_right _ List.mem_cons_self, late expired silent⟩

theorem operated {stored : StoredRegistration} {operation : Operation} {outcome : Outcome}
    (fits : Fits id steps stored.snapshot sending closing)
    (access : step.access.operation? = some operation)
    (found : step.before.records.get? id = some stored)
    (change : operation.Change (.rehydrate stored.snapshot) outcome)
    (tells : step.told id = outcome.after.recorder.events) (commits : step.commits id = true) :
    ∃ sending closing, Fits id (steps ++ [step]) outcome.after.toSnapshot sending closing := by
  -- Before any change but a completion or a resend the code was still waiting.
  have nothingSince (pending : stored.snapshot.status = .pending) : closing = [] := by
    have closes := fits.closes
    rw [pending] at closes
    exact closes.eq_nil_of_pending
  have notExpired {status : Status} {conclusion : Prop} (other : status ≠ .expired) :
      status = .expired → conclusion := fun same => absurd same other
  cases change with
  | lapsed tries pending late =>
      obtain rfl := nothingSince pending
      refine ⟨sending, [], fits.next (by rw [tells]; exact List.append_nil _) fits.sends
        .lapsed ?_⟩
      intro _ _
      exact ⟨commits, operation, stored, access, found, rfl, late⟩
  | missed command pending inTime different attemptsLeft =>
      obtain rfl := nothingSince pending
      refine ⟨sending, [], fits.next (by rw [tells]; exact List.append_nil _) fits.sends
        fits.closes (notExpired ?_)⟩
      change stored.snapshot.status ≠ .expired
      rw [show stored.snapshot.status = .pending from pending]
      exact Status.noConfusion
  | exhausted command pending inTime different noneLeft =>
      obtain rfl := nothingSince pending
      refine ⟨sending, [.failed], fits.next (by rw [tells, List.append_nil]; rfl) fits.sends
        .exhausted (fun _ => nofun)⟩
  | verified command pending inTime same =>
      obtain rfl := nothingSince pending
      exact ⟨sending, [.emailVerified], fits.next (by rw [tells, List.append_nil]; rfl) fits.sends
        .verified (notExpired nofun)⟩
  | resent command waited notCompleted timers drawn =>
      have sends := fits.sends.resent (fits.closes.mem_interruptions notCompleted)
      exact ⟨_, [], fits.next (by rw [tells, List.append_nil, List.append_assoc]; rfl) sends
        .pending (notExpired nofun)⟩
  | @completed candidate account passwordHash command verified same usable =>
      have closes := fits.closes
      rw [show stored.snapshot.status = .verified from verified] at closes
      obtain rfl := closes.eq_of_verified
      exact ⟨sending, _, fits.next (by rw [tells, List.append_assoc]; rfl) fits.sends
        (.completed account passwordHash) (notExpired nofun)⟩
  | @completedAtOnce candidate account passwordHash command pending inTime same usable =>
      obtain rfl := nothingSince pending
      exact ⟨sending, _, fits.next (by rw [tells, List.append_nil]; rfl) fits.sends
        (.completed account passwordHash) (notExpired nofun)⟩

end Fits

theorem Life.fits {policies : Policy → Prop} {id : RegistrationId} {steps : List Step}
    {snapshot : Snapshot} (life : Life policies id steps snapshot) :
    ∃ sending closing, Fits id steps snapshot sending closing := by
  induction life with
  | issued unheard allowed issued committed =>
      obtain ⟨_, code, _, _, _, _, _, _, rfl⟩ := Registration.issue_eq_ok issued
      refine ⟨[.started], [], ?_⟩
      refine { kinds := ?_, sends := .started, closes := .pending, late := nofun }
      simp only [told_append, told_cons, told_nil, unheard, Step.told_self committed]
      rfl
  | quiet life tells notCommitted ih =>
      obtain ⟨sending, closing, fits⟩ := ih
      exact ⟨sending, closing, fits.quiet tells⟩
  | operated life allowed access found change committed commits ih =>
      obtain ⟨sending, closing, fits⟩ := ih
      exact fits.operated access found change (Step.told_self committed) commits

/-! ### History and status -/

/-- What the kinds of a registration's events and its stored state say of each other. -/
structure Accords (id : RegistrationId) (steps : List Step) (snapshot : Snapshot)
    (kinds : List EventKind) : Prop where
  legal : kinds ∈ EventKind.histories
  completed_iff : snapshot.status = .completed ↔
    ∃ kind, kinds.getLast? = some kind ∧ kind.isCompletion = true
  verified_iff : snapshot.status = .verified ↔ kinds.getLast? = some .emailVerified
  pending : snapshot.status = .pending →
    kinds.getLast? = some .started ∨ kinds.getLast? = some .codeResent
  expired : snapshot.status = .expired → kinds.getLast? = some .failed ∨
    (kinds.getLast? = some .started ∨ kinds.getLast? = some .codeResent) ∧
      ∃ step ∈ steps, step.IsLate id snapshot.codeExpiresAt

namespace Closing

variable {status : Status} {sending closing : List EventKind}

theorem completed_iff (closes : Closing status closing) (sends : Sending sending) :
    status = .completed ↔
      ∃ kind, (sending ++ closing).getLast? = some kind ∧ kind.isCompletion = true := by
  have sent := sends.getLast?
  cases closes with
  | pending | lapsed =>
      rw [List.append_nil]
      rcases sent with sent | sent
      all_goals simp [sent, EventKind.isCompletion]
  | exhausted | verified => simp [EventKind.isCompletion]
  | completed account passwordHash =>
      cases account <;> simp [EventBody.kind, EventKind.isCompletion]

theorem verified_iff (closes : Closing status closing) (sends : Sending sending) :
    status = .verified ↔ (sending ++ closing).getLast? = some .emailVerified := by
  have sent := sends.getLast?
  cases closes with
  | pending | lapsed =>
      rw [List.append_nil]
      rcases sent with sent | sent
      all_goals simp [sent]
  | exhausted | verified => simp
  | completed account passwordHash => cases account <;> simp [EventBody.kind]

end Closing

theorem Fits.toAccords {id : RegistrationId} {steps : List Step} {snapshot : Snapshot}
    {sending closing : List EventKind} (fits : Fits id steps snapshot sending closing) :
    Accords id steps snapshot ((told id steps).map Event.kind) := by
  rw [fits.kinds]
  refine
    { legal := Language.append_mem_mul fits.sends.mem fits.closes.mem_endings
      completed_iff := fits.closes.completed_iff fits.sends
      verified_iff := fits.closes.verified_iff fits.sends
      pending := ?_
      expired := ?_ }
  · intro pending
    have closes := fits.closes
    rw [pending] at closes
    rw [closes.eq_nil_of_pending, List.append_nil]
    exact fits.sends.getLast?
  · intro expired
    have closes := fits.closes
    have late := fits.late expired
    rw [expired] at closes
    cases closes with
    | lapsed =>
        rw [List.append_nil]
        exact Or.inr ⟨fits.sends.getLast?, late rfl⟩
    | exhausted => exact Or.inl (by simp)

/-- Under any policies and at any times, the committed history of a registration is
legal and agrees with its stored state. -/
theorem Run.accords {steps : List Step} {store : Store}
    (run : Run (Access.IsStandard fun _ => True) steps store) {id : RegistrationId}
    {record : StoredRegistration} (found : store.records.get? id = some record) :
    Accords id steps record.snapshot ((store.eventsOf id).map fun stored => stored.event.kind) := by
  obtain ⟨sending, closing, fits⟩ := (run.life found).fits
  have kinds : (store.eventsOf id).map (fun stored => stored.event.kind) =
      (told id steps).map Event.kind := by
    rw [← run.eventsOf_eq, List.map_map]
    rfl
  rw [kinds]
  exact fits.toAccords

theorem accords_after_recovery :
    Run (Access.IsStandard fun _ => True) (trace .empty recovery)
        (Store.empty.afterAll recovery) ∧
      ∃ record, (Store.empty.afterAll recovery).records.get? ⟨.nil⟩ = some record ∧
        Accords ⟨.nil⟩ (trace .empty recovery) record.snapshot
          (((Store.empty.afterAll recovery).eventsOf ⟨.nil⟩).map
            fun stored => stored.event.kind) := by
  have run := run_recovery.mono fun _ standard => standard.mono fun _ _ => trivial
  exact ⟨run, _, rfl, run.accords rfl⟩

end Enrolment
