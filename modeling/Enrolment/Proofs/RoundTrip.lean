/-
Events and stored states survive their wire format: what is written of them is read back as it
was, down to the last nanosecond and character.
-/

import Enrolment.Event.Wire
import Enrolment.Proofs.Reading
import Enrolment.Proofs.Timestamp
import Enrolment.Registration.Wire
import Mathlib.Data.List.Nodup

namespace Enrolment

namespace Json

/-! ### Records -/

theorem member?_of_mem {members : List (String × Json)}
    (distinct : (members.map Prod.fst).Nodup) {member : String × Json}
    (inMembers : member ∈ members) : member? member.1 members = some member.2 := by
  induction members with
  | nil => cases inMembers
  | cons first rest ih =>
      obtain ⟨isNew, distinctRest⟩ := List.nodup_cons.mp distinct
      rcases List.mem_cons.mp inMembers with rfl | inRest
      · simp [member?]
      · have other : first.1 ≠ member.1 := by
          rintro same
          exact isNew (same ▸ List.mem_map_of_mem inRest)
        rw [← ih distinctRest inRest]
        simp [member?, other]

theorem givenOnce_of_distinct {members : List (String × Json)}
    (distinct : (members.map Prod.fst).Nodup) (name : String) :
    givenOnce members name = true := by
  have once : (members.map Prod.fst).count name ≤ 1 := List.nodup_iff_count_le_one.mp distinct name
  rw [List.count_eq_countP, List.countP_map, List.countP_eq_length_filter] at once
  simpa [givenOnce, Function.comp_def, beq_eq_decide] using once

/-- A record with the named members in their order has their values as its fields. -/
theorem fields?_object {names : List String} {members : List (String × Json)}
    (named : members.map Prod.fst = names) (distinct : names.Nodup) :
    fields? names (.object members) = some (members.map fun member => some member.2) := by
  subst named
  have once : (members.map Prod.fst).all (givenOnce members) = true :=
    List.all_eq_true.mpr fun name _ => givenOnce_of_distinct distinct name
  rw [fields?, if_pos once, List.map_map]
  exact congrArg some (List.map_congr_left fun _ => member?_of_mem distinct)

/-! ### Values of fields -/

theorem text?_string (text : String) : text? (.string text) = some text := rfl

theorem uuid?_ofUuid (uuid : Uuid) : uuid? (ofUuid uuid) = some uuid := by
  simp only [uuid?, ofUuid, text?_string, Option.bind_eq_bind, Option.bind_some,
    Uuid.ofString?_text]

theorem registrationId?_ofUuid (id : RegistrationId) :
    registrationId? (ofUuid id.uuid) = some id := by
  rw [registrationId?, uuid?_ofUuid, Option.map_some]

theorem instant?_ofInstant (instant : Time.Instant) :
    instant? (ofInstant instant) = some instant := by
  simp only [instant?, ofInstant, text?_string, Option.bind_eq_bind, Option.bind_some,
    String.toList_ofList, Time.Instant.read?_timestamp]

theorem below?_ofNat {limit value : Nat} (small : value < limit) (limited : limit ≤ 2 ^ 64) :
    below? limit (ofNat value) = some value := by
  have integer : (ofNat value).integer? = some (value : Int) := by
    have notNegative : ¬(value : Int) < 0 := by omega
    have bounded : value < Nat.pow 2 64 := small.trans_le limited
    simp [ofNat, ofInt, Json.integer?, Number.integer?, Number.ofInt, notNegative, bounded]
  have inRange : (0 : Int) ≤ value ∧ (value : Int) < limit := by omega
  simp only [below?, integer, Option.bind_eq_bind, Option.bind_some, if_pos inRange,
    Int.toNat_natCast]

theorem optional_ofOption {α : Type} {read : Json → Option α} {write : α → Json}
    (restores : ∀ value, read (write value) = some value) (given : ∀ value, write value ≠ .null)
    (value : Option α) : optional read (some (ofOption write value)) = some value := by
  cases value with
  | none => rfl
  | some value =>
      have present := given value
      simp only [ofOption, optional, restores, Option.map_some]

theorem optional_text (text : Option String) :
    optional text? (some (ofOption .string text)) = some text :=
  optional_ofOption text?_string (fun _ => Json.noConfusion) text

theorem optional_uuid (uuid : Option Uuid) :
    optional uuid? (some (ofOption ofUuid uuid)) = some uuid :=
  optional_ofOption uuid?_ofUuid (fun _ => Json.noConfusion) uuid

end Json

open Json

theorem within_ofOption {α : Type} {write : α → Json} {depth : Nat}
    (within : ∀ value, (write value).Within depth) (value : Option α) :
    (ofOption write value).Within depth := by
  cases value with
  | none => exact .null
  | some value => exact within value

/-! ### Profiles -/

theorem StudentProfile.ofJson?_toJson (profile : StudentProfile) :
    ofJson? profile.toJson = some profile := by
  have distinct : fieldNames.Nodup := by decide
  rw [ofJson?, toJson, fields?_object ?named distinct]
  case named => rfl
  simp only [List.map_cons, List.map_nil, required, Option.bind_some, text?_string, optional_text,
    uuid?_ofUuid, Option.bind_eq_bind]

theorem StaffProfile.ofJson?_toJson (profile : StaffProfile) :
    ofJson? profile.toJson = some profile := by
  have distinct : fieldNames.Nodup := by decide
  rw [ofJson?, toJson, fields?_object ?named distinct]
  case named => rfl
  simp only [List.map_cons, List.map_nil, required, Option.bind_some, text?_string, optional_text,
    Option.bind_eq_bind]

theorem Account.within_toJson (account : Account) (depth : Nat) :
    account.toJson.Within (depth + 1) := by
  have name (text : Option String) : (ofOption Json.string text).Within depth :=
    within_ofOption .string text
  cases account with
  | student profile =>
      apply Within.object
      simp only [List.forall_mem_cons]
      exact ⟨.string _, .string _, .string _, name _, .string _, List.forall_mem_nil _⟩
  | staff profile =>
      apply Within.object
      simp only [List.forall_mem_cons]
      exact ⟨.string _, .string _, name _, .string _, List.forall_mem_nil _⟩

/-! ### Bodies -/

theorem FailureReason.ofJson?_word (reason : FailureReason) :
    ofJson? (.string reason.word) = some reason := by
  cases reason
  rfl

theorem EventKind.ofWord?_word (kind : EventKind) : ofWord? kind.word = some kind := by
  cases kind <;> rfl

namespace EventBody

theorem map_fst_members (body : EventBody) : body.members.map Prod.fst = fieldNames body.kind := by
  rcases body with _ | _ | _ | _ | ⟨_ | _, _⟩ <;> rfl

theorem ofFields?_members (body : EventBody) :
    ofFields? body.kind (body.members.map fun member => some member.2) = some body := by
  rcases body with code | _ | code | reason | ⟨profile | profile, hash⟩
  case failed =>
    simp [ofFields?, kind, members, required, FailureReason.ofJson?_word]
  case completed.student =>
    simp [ofFields?, kind, members, required, text?_string, Account.toJson,
      StudentProfile.ofJson?_toJson]
  case completed.staff =>
    simp [ofFields?, kind, members, required, text?_string, Account.toJson,
      StaffProfile.ofJson?_toJson]
  all_goals simp [ofFields?, kind, members, required, text?_string]

theorem within_members (body : EventBody) (depth : Nat) :
    ∀ member ∈ body.members, member.2.Within (depth + 1) := by
  cases body with
  | completed account hash =>
      simp only [members, List.forall_mem_cons]
      exact ⟨account.within_toJson depth, .string _, List.forall_mem_nil _⟩
  | _ => simp [members, Within.string]

end EventBody

/-! ### Events -/

namespace Event

theorem distinct_names (kind : EventKind) :
    (tagName :: envelopeNames ++ EventBody.fieldNames kind).Nodup := by
  cases kind <;> decide

theorem map_fst_fields {event : Event} {shown : List (String × Json)}
    (named : shown.map Prod.fst = EventBody.fieldNames event.kind) :
    (event.envelope ++ shown).map Prod.fst =
      envelopeNames ++ EventBody.fieldNames event.kind := by
  rw [List.map_append, named]
  rfl

/-- An event is read if what it shows of its body is. -/
theorem ofRecord?_shown {event : Event} {shown : List (String × Json)}
    (named : shown.map Prod.fst = EventBody.fieldNames event.kind) :
    ofRecord? event.kind (.object (event.envelope ++ shown)) =
      (EventBody.ofFields? event.kind (shown.map fun member => some member.2)).map
        fun body => { event with body } := by
  have distinct := (distinct_names event.kind).of_cons
  have version : UInt32.ofNat event.version.toNat = event.version := UInt32.ofNat_toNat
  have bounded : below? (Nat.pow 2 32) (ofNat event.version.toNat) = some event.version.toNat :=
    below?_ofNat event.version.toNat_lt (by decide)
  rw [ofRecord?, fields?_object (map_fst_fields named) distinct, Option.map_eq_bind]
  simp only [envelope, List.map_cons, List.cons_append, List.nil_append, required,
    Option.bind_some, Option.bind_eq_bind, text?_string, uuid?_ofUuid, registrationId?_ofUuid,
    instant?_ofInstant, optional_uuid, bounded, version]
  rfl

theorem ofRecord?_fields (event : Event) :
    ofRecord? event.kind (.object (event.envelope ++ event.body.members)) = some event := by
  have body : EventBody.ofFields? event.kind
      (event.body.members.map fun member => some member.2) = some event.body :=
    event.body.ofFields?_members
  rw [ofRecord?_shown event.body.map_fst_members, body]
  rfl

/-- The tag says the kind and is no field. -/
theorem ofJson?_tagged {kind : EventKind} {fields : List (String × Json)}
    (untagged : tagName ∉ fields.map Prod.fst) :
    ofJson? (.object ((tagName, .string kind.word) :: fields)) =
      ofRecord? kind (.object fields) := by
  have notTag : ∀ member ∈ fields, member.1 ≠ tagName := by
    rintro member inFields same
    exact untagged (same ▸ List.mem_map_of_mem inFields)
  have once : ((tagName, Json.string kind.word) :: fields).countP (·.1 = tagName) ≤ 1 := by
    have none : fields.countP (·.1 = tagName) = 0 := by
      simpa [List.countP_eq_zero] using notTag
    simp [none]
  have others : ((tagName, Json.string kind.word) :: fields).filter (·.1 ≠ tagName) = fields := by
    simpa [List.filter_eq_self] using notTag
  have tag : member? tagName ((tagName, Json.string kind.word) :: fields) =
      some (.string kind.word) := by
    simp [member?]
  rw [ofJson?, if_pos once, others, tag]
  simp only [Option.bind_eq_bind, Option.bind_some, text?_string, EventKind.ofWord?_word]

theorem ofJson?_toJson (event : Event) : ofJson? event.toJson = some event := by
  have untagged : tagName ∉ (event.envelope ++ event.body.members).map Prod.fst := by
    rw [map_fst_fields event.body.map_fst_members]
    exact (List.nodup_cons.mp (distinct_names event.kind)).1
  exact (ofJson?_tagged untagged).trans event.ofRecord?_fields

theorem within_envelope (event : Event) (depth : Nat) :
    ∀ member ∈ event.envelope, member.2.Within depth := by
  have version : (Number.ofInt event.version.toNat).IsWhole :=
    isWhole_ofInt (by have := event.version.toNat_lt; omega)
  simp only [envelope, List.forall_mem_cons]
  exact ⟨.number version, .string _, .string _, .string _, .string _,
    within_ofOption (fun cause => .string cause.text) event.causationId, .string _,
    List.forall_mem_nil _⟩

theorem within_toJson (event : Event) (depth : Nat) : event.toJson.Within (depth + 2) := by
  apply Within.object
  intro member inMembers
  rcases List.mem_append.mp inMembers with inFront | inBody
  · rcases List.mem_cons.mp inFront with rfl | inEnvelope
    · exact .string _
    · exact event.within_envelope _ member inEnvelope
  · exact event.body.within_members depth member inBody

theorem ofWire?_wire (event : Event) : ofWire? event.wire = some event := by
  have read := read?_render (event.within_toJson 125)
  simp only [ofWire?, wire, read, Option.bind_eq_bind, Option.bind_some, ofJson?_toJson]

end Event

/-! ### Stored states -/

theorem Status.ofJson?_toJson (status : Status) : ofJson? status.toJson = some status := by
  cases status <;> rfl

namespace Snapshot

theorem ofJson?_toJson (snapshot : Snapshot) : ofJson? snapshot.toJson = some snapshot := by
  have distinct : fieldNames.Nodup := by decide
  have attempts : UInt8.ofNat snapshot.attempts.toNat = snapshot.attempts := UInt8.ofNat_toNat
  have bounded : below? (Nat.pow 2 8) (ofNat snapshot.attempts.toNat) =
      some snapshot.attempts.toNat :=
    below?_ofNat snapshot.attempts.toNat_lt (by decide)
  rw [ofJson?, toJson, fields?_object ?named distinct]
  case named => rfl
  simp only [members, List.map_cons, List.map_nil, required, Option.bind_some, Option.bind_eq_bind,
    text?_string, registrationId?_ofUuid, instant?_ofInstant, Status.ofJson?_toJson, bounded,
    attempts]

theorem within_toJson (snapshot : Snapshot) (depth : Nat) :
    snapshot.toJson.Within (depth + 1) := by
  have attempts : (Number.ofInt snapshot.attempts.toNat).IsWhole :=
    isWhole_ofInt (by have := snapshot.attempts.toNat_lt; omega)
  apply Within.object
  simp only [members, List.forall_mem_cons]
  exact ⟨.string _, .string _, .string _, .string _, .number attempts, .string _, .string _,
    .string _, .string _, List.forall_mem_nil _⟩

theorem ofWire?_wire (snapshot : Snapshot) : ofWire? snapshot.wire = some snapshot := by
  have read := readRecord?_render (snapshot.within_toJson 126) fieldNames
  simp only [ofWire?, wire, read, Option.bind_eq_bind, Option.bind_some, ofJson?_toJson]

end Snapshot

/-- Whatever is written can be read: the event or the stored state that was written, and from
the state a registration at work that has this state and nothing recorded. -/
theorem wire_restores :
    (∀ event : Event, Event.ofWire? event.wire = some event) ∧
      ∀ snapshot : Snapshot, Snapshot.ofWire? snapshot.wire = some snapshot ∧
        ∃ registration,
          (Snapshot.ofWire? snapshot.wire).map Registration.rehydrate = some registration ∧
          registration.toSnapshot = snapshot ∧ registration.recorder = .empty := by
  constructor
  · intro event
    exact event.ofWire?_wire
  · intro snapshot
    have read := snapshot.ofWire?_wire
    have rehydrated : (Snapshot.ofWire? snapshot.wire).map Registration.rehydrate =
        some (.rehydrate snapshot) := by
      rw [read, Option.map_some]
    exact ⟨read, .rehydrate snapshot, rehydrated, rfl, rfl⟩

end Enrolment
