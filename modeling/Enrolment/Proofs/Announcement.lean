/-
Whose account a completion announces. The profile in the event is the one that the completing
command gave. It passed validation, so it can be normalized; but nothing normalizes it on its
way, and it is a normalized profile only if the command gave one.
-/

import Enrolment.Proofs.Causation
import Enrolment.Proofs.Normalization

namespace Enrolment

open Profile

/-! ### Accounts -/

namespace Account

def fields : Account → List Field
  | .student profile => profile.fields
  | .staff profile => profile.fields

def normalize : Account → Except ProfileError Account
  | .student profile => profile.normalize.map .student
  | .staff profile => profile.normalize.map .staff

variable {account normal : Account}

theorem normalize_eq_error_iff {error : ProfileError} :
    account.normalize = .error error ↔ FirstOf Field.Fault account.fields error := by
  cases account with
  | student profile => exact map_eq_error_iff.trans StudentProfile.normalize_eq_error_iff
  | staff profile => exact map_eq_error_iff.trans StaffProfile.normalize_eq_error_iff

theorem validate_eq_error_iff {error : ProfileError} :
    account.validate = .error error ↔ FirstOf Field.Fault account.fields error := by
  cases account with
  | student profile => exact StudentProfile.validate_eq_error_iff
  | staff profile => exact StaffProfile.validate_eq_error_iff

theorem becomes_of_normalize (normalized : account.normalize = .ok normal) :
    List.Forall₂ Field.Becomes account.fields normal.fields := by
  cases account with
  | student profile =>
      obtain ⟨core, accepted, rfl⟩ := map_eq_ok_iff.mp normalized
      exact (StudentProfile.normalize_eq_ok_iff.mp accepted).1
  | staff profile =>
      obtain ⟨core, accepted, rfl⟩ := map_eq_ok_iff.mp normalized
      exact StaffProfile.normalize_eq_ok_iff.mp accepted

theorem normalize_self (stay : ∀ field ∈ account.fields, field.Becomes field) :
    account.normalize = .ok account := by
  cases account with
  | student profile =>
      exact map_eq_ok_iff.mpr ⟨profile,
        StudentProfile.normalize_eq_ok_iff.mpr ⟨List.forall₂_same.mpr stay, rfl⟩, rfl⟩
  | staff profile =>
      exact map_eq_ok_iff.mpr ⟨profile,
        StaffProfile.normalize_eq_ok_iff.mpr (List.forall₂_same.mpr stay), rfl⟩

theorem agreement (account : Account) : Agreement fields normalize validate account :=
  .intro (fun _ _ => normalize_eq_error_iff) (fun _ _ => validate_eq_error_iff)
    (fun _ _ => becomes_of_normalize) (fun _ => normalize_self) account

/-- Only the middle name can be absent. -/
theorem isOptional_of_absent : ∀ field ∈ account.fields,
    field.text = none → field.isOptional = true := by
  cases account with
  | student | staff => simp [fields, StudentProfile.fields, StaffProfile.fields]

theorem normalize_eq_self_iff :
    account.normalize = .ok account ↔
      ∀ field ∈ account.fields, ∀ text, field.text = some text → IsNormal text := by
  constructor
  · exact account.agreement.normal account
  · intro normal
    refine normalize_self fun field member => ?_
    exact Field.becomes_self (isOptional_of_absent field member) (normal field member)

end Account

/-! ### Announcements -/

structure Performance.Announces (performance : Performance) (event : Event) (account : Account)
    (passwordHash : PasswordHash) : Prop where
  recorded : event ∈ performance.events
  completes : performance.operation.Completes account passwordHash

theorem Performance.announces {performance : Performance} {event : Event}
    (recorded : event ∈ performance.events) {account : Account} {passwordHash : PasswordHash}
    (completed : event.body = .completed account passwordHash) :
    performance.Announces event account passwordHash where
  recorded
  completes := by
    have records := performance.records
    generalize performance.events = events at records recorded
    cases records with
    | nothing => cases recorded
    | one eventId body completes =>
        obtain rfl := List.mem_singleton.mp recorded
        exact completes account passwordHash completed
    | two announced hash completes =>
        rcases List.mem_pair.mp recorded with rfl | rfl
        · cases completed
        · obtain ⟨rfl, rfl⟩ := EventBody.completed.inj completed
          exact completes

/-- A performance in a usage is of an operation on the registration that the ones before it
led to. -/
theorem Usage.reached {allowed : Operation → Prop} {start registration : Registration}
    {performances : List Performance} (usage : Usage allowed start performances registration)
    {performance : Performance} (member : performance ∈ performances) :
    ∃ earlier, earlier ++ [performance] <+: performances ∧
      Usage allowed start earlier performance.before := by
  induction usage with
  | start => cases member
  | @perform performances registration earlier operation permitted ih =>
      rcases List.mem_append.mp member with before | last
      · obtain ⟨path, isPrefix, usage⟩ := ih before
        exact ⟨path, isPrefix.trans (List.prefix_append _ _), usage⟩
      · obtain rfl := List.mem_singleton.mp last
        exact ⟨performances, List.prefix_rfl, earlier⟩
  | commitEvents earlier ih => exact ih member

/-- What a completion in the record of a usage says of its account. -/
structure Account.Announced (start : Registration) (performances : List Performance)
    (event : Event) (account : Account) (passwordHash : PasswordHash) : Prop where
  /-- It is the account that was given. -/
  given : ∃ earlier performance, earlier ++ [performance] <+: performances ∧
    Usage (fun _ => True) start earlier performance.before ∧
    performance.Announces event account passwordHash
  passes : ∃ normal, account.normalize = .ok normal
  agreement : Agreement Account.fields Account.normalize Account.validate account
  normal_iff : account.normalize = .ok account ↔
    ∀ field ∈ account.fields, ∀ text, field.text = some text → IsNormal text

/-- However a registration is used after its issue, every completion that it records announces
the account as its command gave it, and this account is one that normalization accepts. -/
theorem Account.announced_as_given (policy : Policy) (occasion : Occasion) (id : RegistrationId)
    (email : String) (issued : Registration) (performances : List Performance)
    (registration : Registration)
    (succeeded : Registration.issue policy occasion id email = .ok issued)
    (usage : Usage (fun _ => True) issued performances registration) (event : Event)
    (member : event ∈ issued.recorder.events ++ recordedIn performances) (account : Account)
    (passwordHash : PasswordHash) (completed : event.body = .completed account passwordHash) :
    account.Announced issued performances event passwordHash := by
  rcases List.mem_append.mp member with atStart | later
  · -- the issue itself announces nothing but a start
    obtain ⟨_, _, _, _, _, _, _, _, rfl⟩ := Registration.issue_eq_ok succeeded
    obtain rfl := List.mem_singleton.mp atStart
    cases completed
  · obtain ⟨performance, member, recorded⟩ := List.mem_flatMap.mp later
    obtain ⟨earlier, isPrefix, reached⟩ := usage.reached member
    have announces := Performance.announces recorded completed
    exact
      { given := ⟨earlier, performance, isPrefix, reached, announces⟩
        passes := account.agreement.passes_iff.mp announces.completes.usable
        agreement := account.agreement
        normal_iff := Account.normalize_eq_self_iff }

/-! ### A sample -/

def Account.padded : Account :=
  .staff { firstName := " a", lastName := "b", middleName := some " ", position := "c" }

def Performance.padded : Performance :=
  ⟨.unanswered, .brief (.complete "A" .padded ⟨""⟩)⟩

theorem Registration.usage_padded :
    Usage (fun _ => True) unanswered [.padded] Performance.padded.after :=
  Usage.start.perform (.brief (.complete "A" .padded ⟨""⟩)) trivial

def Event.padded : Event :=
  { version := 1, id := .nil, registrationId := ⟨.nil⟩, timestamp := .epoch
    correlationId := .nil, causationId := some .nil, email := ⟨"a@b"⟩
    body := .completed .padded ⟨""⟩ }

theorem announced_as_given_padded :
    Registration.issue .brief (.uniform .epoch 0) ⟨.nil⟩ "a@b" = .ok .unanswered ∧
    Usage (fun _ => True) .unanswered [.padded] Performance.padded.after ∧
    Event.padded ∈ Registration.unanswered.recorder.events ++ recordedIn [.padded] ∧
    Account.padded.Announced .unanswered [.padded] .padded ⟨""⟩ ∧
    Account.padded.normalize = .ok .clerk := by
  have succeeded : Registration.issue .brief (.uniform .epoch 0) ⟨.nil⟩ "a@b" =
      .ok .unanswered := rfl
  have usage := Registration.usage_padded
  have member : Event.padded ∈
      Registration.unanswered.recorder.events ++ recordedIn [.padded] := by decide
  exact ⟨succeeded, usage, member,
    Account.announced_as_given _ _ _ _ _ _ _ succeeded usage _ member _ _ rfl, rfl⟩

/-- A blank around a name is announced with it. -/
theorem not_announced_normal :
    ¬ ∀ (policy : Policy) (occasion : Occasion) (id : RegistrationId) (email : String)
      (issued : Registration) (performances : List Performance) (registration : Registration),
      Registration.issue policy occasion id email = .ok issued →
      Usage (fun _ => True) issued performances registration →
      ∀ event ∈ recordedIn performances, ∀ account passwordHash,
        event.body = .completed account passwordHash → account.normalize = .ok account := by
  intro normal
  have same : Account.padded.normalize = .ok .padded :=
    normal .brief (.uniform .epoch 0) ⟨.nil⟩ "a@b" .unanswered [.padded] _ rfl
      Registration.usage_padded .padded (by decide) .padded ⟨""⟩ rfl
  have changed : Account.padded.normalize ≠ .ok .padded := by decide
  exact changed same

end Enrolment
