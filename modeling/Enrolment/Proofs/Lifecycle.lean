/-
Operations and the lifecycle machine. Whatever an operation does to the status of a
registration, the machine does as well, in at most two steps, and for each step that others
hear of there is one event. So the statuses of a registration in use are a walk of the machine,
and the walk keeps to what the statuses allow.
-/

import Enrolment.Proofs.Usage
import Mathlib.Data.List.Chain
import Mathlib.Data.List.Forall2

namespace Enrolment

open Time

/-! ### What the statuses allow -/

namespace Status

def Allowed (statuses : List Status) : Prop :=
  statuses.IsChain fun status next => status.canBecome next = true

structure Lawful (statuses : List Status) : Prop where
  allowed : Allowed statuses
  throughVerified : ∀ before between after,
    statuses = before ++ .pending :: (between ++ .completed :: after) → .verified ∈ between
  final : ∀ before after, statuses = before ++ .completed :: after →
    ∀ status ∈ after, status = .completed
  notRevived : ∀ before after, statuses ≠ before ++ .expired :: .verified :: after

theorem Allowed.of_append {before after : List Status} (allowed : Allowed (before ++ after)) :
    Allowed after :=
  (List.isChain_append.mp allowed).2.1

theorem Allowed.cons {status next : Status} {after : List Status}
    (allowed : Allowed (status :: next :: after)) :
    status.canBecome next = true ∧ Allowed (next :: after) :=
  List.isChain_cons_cons.mp allowed

theorem canBecome_completed {status : Status} (next : status.canBecome .completed = true) :
    status = .verified ∨ status = .completed := by
  cases status with
  | pending | expired => cases next
  | verified => exact Or.inl rfl
  | completed => exact Or.inr rfl

theorem Allowed.verified_mem {status : Status} {between after : List Status}
    (allowed : Allowed (status :: (between ++ .completed :: after)))
    (notVerified : status ≠ .verified) (notCompleted : status ≠ .completed) :
    .verified ∈ between := by
  induction between generalizing status with
  | nil =>
      rcases canBecome_completed allowed.cons.1 with verified | completed
      · exact absurd verified notVerified
      · exact absurd completed notCompleted
  | cons next between ih =>
      obtain ⟨first, rest⟩ := allowed.cons
      by_cases verified : next = .verified
      · rw [verified]
        exact List.mem_cons_self
      · apply List.mem_cons_of_mem
        apply ih rest verified
        rintro rfl
        rcases canBecome_completed first with verified | completed
        · exact notVerified verified
        · exact notCompleted completed

theorem Allowed.eq_completed {after : List Status} (allowed : Allowed (.completed :: after)) :
    ∀ status ∈ after, status = .completed := by
  induction after with
  | nil => exact List.forall_mem_nil _
  | cons next after ih =>
      obtain ⟨first, rest⟩ := allowed.cons
      cases next with
      | completed => exact List.forall_mem_cons.mpr ⟨rfl, ih rest⟩
      | pending | expired | verified => cases first

theorem Allowed.lawful {statuses : List Status} (allowed : Allowed statuses) :
    Lawful statuses := by
  refine { allowed, throughVerified := ?_, final := ?_, notRevived := ?_ }
  · rintro before between after rfl
    exact allowed.of_append.verified_mem Status.noConfusion Status.noConfusion
  · rintro before after rfl
    exact allowed.of_append.eq_completed
  · rintro before after rfl
    cases allowed.of_append.cons.1

end Status

/-! ### Walks of the machine -/

namespace Lifecycle

inductive Trail : Status → List Input → List Status → Status → Prop
  | stay (status : Status) : Trail status [] [] status
  | move {source next target : Status} {input : Input} {effect : Effect} {inputs : List Input}
      {visited : List Status} (taken : step source input = .ok (next, effect))
      (rest : Trail next inputs visited target) :
      Trail source (input :: inputs) (next :: visited) target

theorem canBecome_of_step {source target : Status} {input : Input} {effect : Effect}
    (taken : step source input = .ok (target, effect)) : source.canBecome target = true := by
  have led : target? source input = some target := by
    unfold step at taken
    split at taken
    · next reached =>
        rw [reached, (Prod.mk.inj (Except.ok.inj taken)).1]
    · cases taken
  clear taken
  cases source <;> cases input <;> cases led <;> rfl

namespace Trail

variable {source middle target : Status} {inputs more : List Input} {visited further : List Status}

theorem single {input : Input} {effect : Effect}
    (taken : step source input = .ok (target, effect)) : Trail source [input] [target] target :=
  .move taken (.stay target)

theorem append (first : Trail source inputs visited middle)
    (second : Trail middle more further target) :
    Trail source (inputs ++ more) (visited ++ further) target := by
  induction first with
  | stay => exact second
  | move taken rest ih => exact .move taken (ih second)

theorem allowed (trail : Trail source inputs visited target) :
    Status.Allowed (source :: visited) := by
  induction trail with
  | stay => exact List.isChain_singleton _
  | move taken rest ih => exact List.isChain_cons_cons.mpr ⟨canBecome_of_step taken, ih⟩

end Trail

end Lifecycle

/-! ### Inputs of an operation -/

structure Lifecycle.Path where
  inputs : List Input
  visited : List Status

inductive Operation.Tells (operation : Operation) : Lifecycle.Input → Event → Prop
  | verified {event : Event} (body : event.body = .emailVerified) :
      Tells operation .verify event
  | exhausted {event : Event} (body : event.body = .failed .tooManyAttempts) :
      Tells operation .exhaustAttempts event
  | resent {event : Event} {code : Code} (command : operation.command = .resend)
      (body : event.body = .codeResent code) : Tells operation .resend event
  | completed {event : Event} {candidate : String} {account : Account}
      {passwordHash : PasswordHash}
      (command : operation.command = .complete candidate account passwordHash)
      (body : event.body = .completed account passwordHash) : Tells operation .complete event

namespace Performance

open Lifecycle (Input Path Trail)

/-- The inputs lead the machine where the operation led the registration, and the events tell
of them. Only that the time is over goes without an event. -/
structure Follows (performance : Performance) (path : Path) : Prop where
  short : path.inputs.length ≤ 2
  trail : Trail performance.before.status path.inputs path.visited performance.after.status
  recorded : performance.after.recorder.events =
    performance.before.recorder.events ++ performance.events
  told : List.Forall₂ performance.operation.Tells (path.inputs.filter (· ≠ .expire))
    performance.events
  late : .expire ∈ path.inputs → performance.before.codeExpiresAt < performance.now
  still : path.inputs = [] → performance.after.status = performance.before.status ∧
    performance.after.recorder = performance.before.recorder

variable {performance : Performance}

theorem follows_of_still (status : performance.after.status = performance.before.status)
    (recorder : performance.after.recorder = performance.before.recorder)
    (events : performance.events = []) : performance.Follows ⟨[], []⟩ where
  short := Nat.zero_le _
  trail := by
    rw [status]
    exact .stay _
  recorded := performance.recorder_after
  told := by
    rw [events]
    exact .nil
  late member := absurd member List.not_mem_nil
  still _ := ⟨status, recorder⟩

/-- Nothing is told when the time is found to be over, whether for the first time or again. -/
theorem follows_of_late (pending : performance.before.status = .pending ∨
      performance.before.status = .expired)
    (late : performance.before.codeExpiresAt < performance.now)
    (status : performance.after.status = .expired) (events : performance.events = []) :
    performance.Follows ⟨[.expire], [.expired]⟩ where
  short := by decide
  trail := by
    rw [status]
    rcases pending with pending | expired
    · rw [pending]
      exact .single rfl
    · rw [expired]
      exact .single rfl
  recorded := performance.recorder_after
  told := by
    rw [events]
    exact .nil
  late _ := late
  still empty := by cases empty

theorem follows_of_told {input : Input} {inputs : List Input} {visited : List Status}
    (trail : Trail performance.before.status (input :: inputs) visited performance.after.status)
    (short : (input :: inputs).length ≤ 2) (inTime : .expire ∉ input :: inputs)
    (told : List.Forall₂ performance.operation.Tells (input :: inputs) performance.events) :
    performance.Follows ⟨input :: inputs, visited⟩ where
  short := short
  trail := trail
  recorded := performance.recorder_after
  told := by
    have all : (input :: inputs).filter (· ≠ .expire) = input :: inputs := by
      rw [List.filter_eq_self]
      intro other member
      exact decide_eq_true (ne_of_mem_of_not_mem member inTime)
    rw [all]
    exact told
  late member := absurd member inTime
  still empty := by cases empty

theorem follows_of_event {input : Input} {target : Status} {effect : Lifecycle.Effect}
    {event : Event}
    (taken : Lifecycle.step performance.before.status input = .ok (target, effect))
    (status : performance.after.status = target) (inTime : input ≠ .expire)
    (told : performance.operation.Tells input event) (events : performance.events = [event]) :
    performance.Follows ⟨[input], [target]⟩ := by
  apply follows_of_told
  · rw [status]
    exact .single taken
  · exact Nat.le_succ 1
  · intro member
    exact inTime (List.mem_singleton.mp member).symm
  · rw [events]
    exact .cons told .nil

theorem follows_of_change {outcome : Outcome}
    (change : performance.operation.Change performance.before outcome)
    (after : performance.after = outcome.after) : ∃ path, performance.Follows path := by
  have status : performance.after.status = outcome.after.status := by rw [after]
  cases change with
  | lapsed tries pending late =>
      have events : performance.events = [] :=
        events_of_recorded after (List.append_nil _).symm
      exact ⟨_, follows_of_late (Or.inl pending) late status events⟩
  | missed =>
      have events : performance.events = [] :=
        events_of_recorded after (List.append_nil _).symm
      exact ⟨_, follows_of_still status (by rw [after]; rfl) events⟩
  | exhausted command pending =>
      have events : performance.events = [_] := events_of_recorded after rfl
      have taken : Lifecycle.step performance.before.status .exhaustAttempts =
          .ok (.expired, .changed) := by rw [pending]; rfl
      exact ⟨_, follows_of_event taken status Input.noConfusion (.exhausted rfl) events⟩
  | verified command pending =>
      have events : performance.events = [_] := events_of_recorded after rfl
      have taken : Lifecycle.step performance.before.status .verify =
          .ok (.verified, .changed) := by rw [pending]; rfl
      exact ⟨_, follows_of_event taken status Input.noConfusion (.verified rfl) events⟩
  | resent command waited notCompleted =>
      have events : performance.events = [_] := events_of_recorded after rfl
      have taken : Lifecycle.step performance.before.status .resend =
          .ok (.pending, .changed) := by
        cases before : performance.before.status with
        | completed => exact absurd before notCompleted
        | pending | expired | verified => rfl
      exact ⟨_, follows_of_event taken status Input.noConfusion (.resent command rfl) events⟩
  | completed command verified =>
      have events : performance.events = [_] := events_of_recorded after rfl
      have taken : Lifecycle.step performance.before.status .complete =
          .ok (.completed, .changed) := by rw [verified]; rfl
      exact ⟨_, follows_of_event taken status Input.noConfusion (.completed command rfl) events⟩
  | completedAtOnce command pending =>
      have events : performance.events = [_, _] :=
        events_of_recorded after (List.append_assoc _ [_] [_])
      -- The only operation that makes two steps: it verifies, and then it completes.
      refine ⟨⟨[.verify, .complete], [.verified, .completed]⟩, ?_⟩
      apply follows_of_told
      · rw [pending, status]
        exact .move rfl (.single rfl)
      · exact Nat.le_refl 2
      · decide
      · rw [events]
        exact .cons (.verified rfl) (.cons (.completed command rfl) .nil)

/-- Every operation follows the machine, whatever the registration and the policy. -/
theorem follows (performance : Performance) :
    ∃ path, performance.Follows path := by
  cases performance.ending with
  | refused cause ran after events =>
      cases cause with
      | lateAgain tries expired late =>
          exact ⟨_, follows_of_late (Or.inr expired) late (by rw [after, expired]) events⟩
      | _ => exact ⟨_, follows_of_still (by rw [after]) (by rw [after]) events⟩
  | passed idle ran after events =>
      exact ⟨_, follows_of_still (by rw [after]) (by rw [after]) events⟩
  | changed change ran after => exact follows_of_change change after

end Performance

/-! ### Walks of a usage -/

theorem forall₂_concat_left {α β : Type} {related : α → β → Prop} {front : List α} {last : α}
    {others : List β} (all : List.Forall₂ related (front ++ [last]) others) :
    ∃ frontOthers lastOther, List.Forall₂ related front frontOthers ∧
      related last lastOther ∧ others = frontOthers ++ [lastOther] := by
  rw [← List.forall₂_reverse_iff, List.reverse_concat, List.forall₂_cons_left_iff] at all
  obtain ⟨lastOther, reversed, both, rest, whole⟩ := all
  refine ⟨reversed.reverse, lastOther, ?_, both, ?_⟩
  · rw [← List.forall₂_reverse_iff, List.reverse_reverse]
    exact rest
  · rw [← List.reverse_cons, ← whole, List.reverse_reverse]

open Lifecycle (Path Trail)

theorem Usage.trail {allowed : Operation → Prop} {start registration : Registration}
    {performances : List Performance} {paths : List Path}
    (usage : Usage allowed start performances registration)
    (followed : List.Forall₂ Performance.Follows performances paths) :
    Trail start.status (paths.flatMap Path.inputs) (paths.flatMap Path.visited)
      registration.status := by
  induction usage generalizing paths with
  | start =>
      cases followed
      exact .stay _
  | commitEvents earlier ih => exact ih followed
  | @perform performances registration earlier operation permitted ih =>
      obtain ⟨before, last, followedBefore, followsLast, rfl⟩ := forall₂_concat_left followed
      rw [List.flatMap_append, List.flatMap_append, List.flatMap_singleton,
        List.flatMap_singleton]
      exact (ih followedBefore).append followsLast.trail

/-- The machine can follow every operation, whatever the registration and the policy. And
however it follows the operations of a usage, its steps are one lawful walk. -/
theorem Performance.refines_lifecycle :
    (∀ performance : Performance, ∃ path, performance.Follows path) ∧
    ∀ (allowed : Operation → Prop) (start registration : Registration)
      (performances : List Performance) (paths : List Path),
      Usage allowed start performances registration →
      List.Forall₂ Performance.Follows performances paths →
        Trail start.status (paths.flatMap Path.inputs) (paths.flatMap Path.visited)
          registration.status ∧
        Status.Lawful (start.status :: paths.flatMap Path.visited) := by
  refine ⟨Performance.follows, ?_⟩
  intro allowed start registration performances paths usage followed
  have trail := usage.trail followed
  exact ⟨trail, trail.allowed.lawful⟩

/-! ### A sample -/

def Lifecycle.Path.replacement : List Path :=
  [⟨[.resend], [.pending]⟩, ⟨[.verify, .complete], [.verified, .completed]⟩]

theorem follows_replacement :
    List.Forall₂ Performance.Follows Performance.replacement Lifecycle.Path.replacement := by
  refine .cons ?_ (.cons ?_ .nil)
  · have taken : Lifecycle.step .pending .resend = .ok (.pending, .changed) := rfl
    exact Performance.follows_of_event taken rfl (by decide) (.resent rfl rfl) rfl
  · apply Performance.follows_of_told
    · exact .move rfl (.single rfl)
    · exact Nat.le_refl 2
    · decide
    · exact .cons (.verified rfl) (.cons (.completed rfl rfl) .nil)

theorem refines_lifecycle_of_replaced :
    (∃ path, Performance.Follows ⟨.unanswered, .replacement⟩ path) ∧
    Lifecycle.Trail .pending [.resend, .verify, .complete] [.pending, .verified, .completed]
      .completed ∧
    Status.Lawful [.pending, .pending, .verified, .completed] := by
  obtain ⟨anywhere, inUse⟩ := Performance.refines_lifecycle
  refine ⟨anywhere _, ?_⟩
  exact inUse _ _ _ _ _ Registration.usage_replaced follows_replacement

end Enrolment
