/-
Events are decoded by their members. Where the members stand, what else stands among them and
how the text is laid out does not matter; but nothing that an event needs may be missing, and
nothing that it has may be given twice.
-/

import Enrolment.Proofs.Arrangement
import Enrolment.Proofs.Layout

namespace Enrolment

open Json

theorem Json.text?_eq_some_iff {json : Json} {text : String} :
    json.text? = some text ↔ json = .string text := by
  cases json <;> simp [text?]

theorem EventKind.word_of_ofWord? {word : String} {kind : EventKind}
    (found : ofWord? word = some kind) : kind.word = word := by
  simpa using List.find?_some found

theorem EventKind.word_injective : Function.Injective word := by
  intro kind other same
  have found := ofWord?_word kind
  rw [same, ofWord?_word other] at found
  exact (Option.some.inj found).symm

/-- A reader goes by the fields of a record and does without none that is needed. -/
structure Json.Schema.ReadBy {α : Type} (schema : Schema) (read : Json → Option α) : Prop where
  arranged : ∀ {own members : List (String × Json)}, own.map Prod.fst = schema.names →
    Arranged schema own members → read (.object members) = read (.object own)
  complete : ∀ {members : List (String × Json)} {result : α},
    read (.object members) = some result → schema.Complete members

theorem Json.Schema.ReadBy.spoiled {α : Type} {schema : Schema} {read : Json → Option α}
    (readBy : schema.ReadBy read) {own members : List (String × Json)}
    (fits : own.map Prod.fst = schema.names) (spoiled : Spoiled schema own members) :
    read (.object members) = none :=
  Option.eq_none_iff_forall_ne_some.mpr fun _ result =>
    spoiled.not_complete fits (readBy.complete result)

/-! ### Profiles -/

namespace StudentProfile

def schema : Schema where
  names := fieldNames
  distinct := by decide
  omittable := ["middle_name"]
  depth := 125

theorem readBy : schema.ReadBy ofJson? where
  arranged := by
    intro own members fits arranged
    have known : ∀ name ∈ fieldNames, name ∈ schema.names := fun _ => id
    rw [ofJson?, ofJson?, arranged.fields?_eq fits known,
      Arranged.asWritten.fields?_eq fits known]
    simp (disch := decide) only [fieldNames, List.map_cons, List.map_nil, Option.bind_eq_bind,
      Option.bind_some, arranged.member?_eq fits, arranged.optional_eq fits]
  complete := by
    intro members profile decoded
    simp only [ofJson?, Option.bind_eq_bind, Option.bind_eq_some_iff,
      fields?_eq_some_iff] at decoded
    obtain ⟨_, ⟨once, rfl⟩, decoded⟩ := decoded
    simp only [fieldNames, List.map_cons, List.map_nil, Option.bind_eq_some_iff] at decoded
    obtain ⟨_, barcode, _, firstName, _, lastName, _, _, _, groupId, _⟩ := decoded
    refine { once, given := ?_ }
    simp only [schema, fieldNames, List.forall_mem_cons]
    exact ⟨fun _ => named_ne_nil_of_required barcode,
      fun _ => named_ne_nil_of_required firstName, fun _ => named_ne_nil_of_required lastName,
      absurd (by decide), fun _ => named_ne_nil_of_required groupId, List.forall_mem_nil _⟩

end StudentProfile

namespace StaffProfile

def schema : Schema where
  names := fieldNames
  distinct := by decide
  omittable := ["middle_name"]
  depth := 125

theorem readBy : schema.ReadBy ofJson? where
  arranged := by
    intro own members fits arranged
    have known : ∀ name ∈ fieldNames, name ∈ schema.names := fun _ => id
    rw [ofJson?, ofJson?, arranged.fields?_eq fits known,
      Arranged.asWritten.fields?_eq fits known]
    simp (disch := decide) only [fieldNames, List.map_cons, List.map_nil, Option.bind_eq_bind,
      Option.bind_some, arranged.member?_eq fits, arranged.optional_eq fits]
  complete := by
    intro members profile decoded
    simp only [ofJson?, Option.bind_eq_bind, Option.bind_eq_some_iff,
      fields?_eq_some_iff] at decoded
    obtain ⟨_, ⟨once, rfl⟩, decoded⟩ := decoded
    simp only [fieldNames, List.map_cons, List.map_nil, Option.bind_eq_some_iff] at decoded
    obtain ⟨_, firstName, _, lastName, _, _, _, position, _⟩ := decoded
    refine { once, given := ?_ }
    simp only [schema, fieldNames, List.forall_mem_cons]
    exact ⟨fun _ => named_ne_nil_of_required firstName,
      fun _ => named_ne_nil_of_required lastName, absurd (by decide),
      fun _ => named_ne_nil_of_required position, List.forall_mem_nil _⟩

end StaffProfile

namespace Account

def schema : Account → Schema
  | .student _ => StudentProfile.schema
  | .staff _ => StaffProfile.schema

def ofProfile? (account : Account) (profile : Json) : Option Account :=
  match account with
  | .student _ => (StudentProfile.ofJson? profile).map .student
  | .staff _ => (StaffProfile.ofJson? profile).map .staff

variable {account : Account} {members : List (String × Json)}

theorem map_fst_members (account : Account) :
    account.toJson.members.map Prod.fst = account.schema.names := by
  cases account <;> rfl

theorem within_members (account : Account) :
    ∀ member ∈ account.toJson.members, member.2.Within account.schema.depth := by
  have within := account.within_toJson 125
  cases account with
  | student profile | staff profile =>
      cases within with
      | object each => exact each

theorem ofProfile?_arranged (arranged : Arranged account.schema account.toJson.members members) :
    account.ofProfile? (.object members) = some account := by
  have fits := account.map_fst_members
  cases account with
  | student profile =>
      have read : StudentProfile.ofJson? (.object members) = some profile :=
        (StudentProfile.readBy.arranged fits arranged).trans profile.ofJson?_toJson
      rw [ofProfile?, read]
      rfl
  | staff profile =>
      have read : StaffProfile.ofJson? (.object members) = some profile :=
        (StaffProfile.readBy.arranged fits arranged).trans profile.ofJson?_toJson
      rw [ofProfile?, read]
      rfl

theorem ofProfile?_spoiled (spoiled : Spoiled account.schema account.toJson.members members) :
    account.ofProfile? (.object members) = none := by
  have fits := account.map_fst_members
  cases account with
  | student profile =>
      rw [ofProfile?, StudentProfile.readBy.spoiled fits spoiled]
      rfl
  | staff profile =>
      rw [ofProfile?, StaffProfile.readBy.spoiled fits spoiled]
      rfl

end Account

/-! ### Bodies -/

def PasswordHash.besides (passwordHash : PasswordHash) (profile : List (String × Json)) :
    List (String × Json) :=
  [("profile", .object profile), ("password_hash", .string passwordHash.phc)]

namespace EventBody

inductive Shown : EventBody → List (String × Json) → Prop
  | asWritten (body : EventBody) : Shown body body.members
  | completed {account : Account} {profile : List (String × Json)}
      (arranged : Arranged account.schema account.toJson.members profile)
      (passwordHash : PasswordHash) :
      Shown (.completed account passwordHash) (passwordHash.besides profile)

inductive Damaged : EventBody → List (String × Json) → Prop
  | completed {account : Account} {profile : List (String × Json)}
      (spoiled : Spoiled account.schema account.toJson.members profile)
      (passwordHash : PasswordHash) :
      Damaged (.completed account passwordHash) (passwordHash.besides profile)

section Completed

variable (account : Account) (passwordHash : PasswordHash) (profile : List (String × Json))

theorem map_fst_besides :
    (passwordHash.besides profile).map Prod.fst =
      fieldNames (completed account passwordHash).kind := by
  cases account <;> rfl

theorem ofFields?_besides :
    EventBody.ofFields? (completed account passwordHash).kind
        ((passwordHash.besides profile).map fun member => some member.2) =
      (account.ofProfile? (.object profile)).map fun account => completed account passwordHash := by
  cases account with
  | student =>
      change ((StudentProfile.ofJson? (.object profile)).bind fun profile =>
        some (completed (.student profile) passwordHash)) = _
      rw [Account.ofProfile?, Option.map_map, Option.map_eq_bind]
      rfl
  | staff =>
      change ((StaffProfile.ofJson? (.object profile)).bind fun profile =>
        some (completed (.staff profile) passwordHash)) = _
      rw [Account.ofProfile?, Option.map_map, Option.map_eq_bind]
      rfl

variable {profile} in
theorem within_besides (within : ∀ member ∈ profile, member.2.Within 125) :
    ∀ member ∈ passwordHash.besides profile, member.2.Within 126 :=
  List.forall_mem_cons.mpr ⟨.object within, List.forall_mem_singleton.mpr (.string _)⟩

end Completed

variable {body : EventBody} {shown : List (String × Json)}

theorem Shown.map_fst (shows : body.Shown shown) :
    shown.map Prod.fst = fieldNames body.kind := by
  cases shows with
  | asWritten => exact body.map_fst_members
  | completed => exact map_fst_besides _ _ _

theorem Damaged.map_fst (damaged : body.Damaged shown) :
    shown.map Prod.fst = fieldNames body.kind := by
  cases damaged with
  | completed => exact map_fst_besides _ _ _

theorem Shown.ofFields? (shows : body.Shown shown) :
    ofFields? body.kind (shown.map fun member => some member.2) = some body := by
  cases shows with
  | asWritten => exact body.ofFields?_members
  | completed arranged =>
      rw [ofFields?_besides, Account.ofProfile?_arranged arranged]
      rfl

theorem Damaged.ofFields? (damaged : body.Damaged shown) :
    ofFields? body.kind (shown.map fun member => some member.2) = none := by
  cases damaged with
  | completed spoiled =>
      rw [ofFields?_besides, Account.ofProfile?_spoiled spoiled]
      rfl

theorem Shown.within (shows : body.Shown shown) : ∀ member ∈ shown, member.2.Within 126 := by
  cases shows with
  | asWritten => exact body.within_members 125
  | @completed account _ arranged =>
      have within := arranged.within account.within_members
      cases account <;> exact within_besides _ within

theorem Damaged.within (damaged : body.Damaged shown) :
    ∀ member ∈ shown, member.2.Within 126 := by
  cases damaged with
  | @completed account _ spoiled =>
      have within := spoiled.within account.within_members
      cases account <;> exact within_besides _ within

/-- A body needs all of its fields. -/
theorem named_ne_nil_of_ofFields? {kind : EventKind} {members : List (String × Json)}
    (decoded : EventBody.ofFields? kind ((fieldNames kind).map fun name => member? name members) =
      some body) : ∀ name ∈ fieldNames kind, named name members ≠ [] := by
  cases kind with
  | emailVerified => exact List.forall_mem_nil _
  | started | codeResent | failed =>
      obtain ⟨_, only, _⟩ := Option.bind_eq_some_iff.mp decoded
      exact List.forall_mem_singleton.mpr (named_ne_nil_of_required only)
  | studentCompleted | staffCompleted =>
      obtain ⟨_, profile, decoded⟩ := Option.bind_eq_some_iff.mp decoded
      obtain ⟨_, hash, _⟩ := Option.bind_eq_some_iff.mp decoded
      exact List.forall_mem_cons.mpr ⟨named_ne_nil_of_required profile,
        List.forall_mem_singleton.mpr (named_ne_nil_of_required hash)⟩

end EventBody

/-! ### Events -/

namespace Event

/-- An object nests one deeper than its members, and a profile stands inside an event. -/
def schema (kind : EventKind) : Schema where
  names := tagName :: envelopeNames ++ EventBody.fieldNames kind
  distinct := distinct_names kind
  omittable := ["causation_id"]
  depth := 126

def showing (event : Event) (shown : List (String × Json)) : List (String × Json) :=
  (tagName, .string event.kind.word) :: event.envelope ++ shown

section Record

variable {kind : EventKind} {own members : List (String × Json)}

theorem fields?_untagged {names : List String} (untagged : tagName ∉ names) :
    fields? names (.object (members.filter (·.1 ≠ tagName))) =
      fields? names (.object members) := by
  have unmoved (name : String) (inNames : name ∈ names) :
      named name (members.filter (·.1 ≠ tagName)) = named name members := by
    have isField : name ≠ tagName := ne_of_mem_of_not_mem inNames untagged
    rw [named, named, List.filter_filter]
    refine List.filter_congr fun member _ => ?_
    by_cases same : member.1 = name
    · simp [same, isField]
    · simp [same]
  have found : (names.map fun name => member? name (members.filter (·.1 ≠ tagName))) =
      names.map fun name => member? name members :=
    List.map_congr_left fun name inNames => by
      rw [member?_eq_head?, member?_eq_head?, unmoved name inNames]
  apply Option.ext
  intro fields
  rw [fields?_eq_some_iff, fields?_eq_some_iff, found]
  refine and_congr_left' (forall₂_congr fun name inNames => ?_)
  rw [unmoved name inNames]

theorem ofRecord?_untagged (kind : EventKind) (members : List (String × Json)) :
    ofRecord? kind (.object (members.filter (·.1 ≠ tagName))) =
      ofRecord? kind (.object members) := by
  have untagged : tagName ∉ envelopeNames ++ EventBody.fieldNames kind :=
    (List.nodup_cons.mp (distinct_names kind)).1
  rw [ofRecord?, ofRecord?, fields?_untagged untagged]

/-- One tag decides which event the fields are those of. -/
theorem ofJson?_of_tag (once : (named tagName members).length ≤ 1)
    (tag : member? tagName members = some (.string kind.word)) :
    ofJson? (.object members) = ofRecord? kind (.object members) := by
  have once : members.countP (·.1 = tagName) ≤ 1 := by
    rwa [List.countP_eq_length_filter]
  rw [ofJson?, if_pos once, tag]
  simp only [Option.bind_eq_bind, Option.bind_some, text?_string, EventKind.ofWord?_word]
  exact ofRecord?_untagged kind members

/-- Only the cause may be missing. -/
theorem body_needed : ∀ name ∈ EventBody.fieldNames kind, name ∉ (schema kind).omittable := by
  cases kind <;> decide

theorem ofRecord?_arranged (fits : own.map Prod.fst = (schema kind).names)
    (arranged : Arranged (schema kind) own members) :
    ofRecord? kind (.object members) = ofRecord? kind (.object own) := by
  have known : ∀ name ∈ envelopeNames ++ EventBody.fieldNames kind, name ∈ (schema kind).names :=
    fun name => List.mem_cons_of_mem tagName
  have envelope (name : String) (inEnvelope : name ∈ envelopeNames)
      (needed : name ∉ ["causation_id"]) : member? name members = member? name own :=
    arranged.member?_eq fits (known name (List.mem_append_left _ inEnvelope)) needed
  have cause : optional uuid? (member? "causation_id" members) =
      optional uuid? (member? "causation_id" own) :=
    arranged.optional_eq fits (known _ (List.mem_append_left _ (by decide))) uuid?
  have body : ((EventBody.fieldNames kind).map fun name => member? name members) =
      (EventBody.fieldNames kind).map fun name => member? name own :=
    List.map_congr_left fun name inBody =>
      arranged.member?_eq fits (known name (List.mem_append_right _ inBody))
        (body_needed name inBody)
  rw [ofRecord?, ofRecord?, arranged.fields?_eq fits known,
    Arranged.asWritten.fields?_eq fits known, List.map_append, List.map_append, body]
  simp (disch := decide) only [envelopeNames, List.cons_append, List.nil_append, List.map_cons,
    List.map_nil, Option.bind_eq_bind, Option.bind_some, envelope, cause]

theorem complete_of_ofRecord? {event : Event}
    (once : (named tagName members).length ≤ 1) (tagged : named tagName members ≠ [])
    (decoded : ofRecord? kind (.object members) = some event) :
    (schema kind).Complete members := by
  simp only [ofRecord?, Option.bind_eq_bind, Option.bind_eq_some_iff,
    fields?_eq_some_iff] at decoded
  obtain ⟨_, ⟨onceEach, rfl⟩, decoded⟩ := decoded
  simp only [envelopeNames, List.map_cons, List.cons_append, List.nil_append,
    Option.bind_eq_some_iff] at decoded
  obtain ⟨_, version, _, id, _, registrationId, _, timestamp, _, correlationId, _, _, _, email,
    _, body, _⟩ := decoded
  refine { once := List.forall_mem_cons.mpr ⟨once, onceEach⟩, given := ?_ }
  simp only [schema, envelopeNames, List.cons_append, List.nil_append, List.forall_mem_cons]
  exact ⟨fun _ => tagged, fun _ => named_ne_nil_of_required version,
    fun _ => named_ne_nil_of_required id, fun _ => named_ne_nil_of_required registrationId,
    fun _ => named_ne_nil_of_required timestamp,
    fun _ => named_ne_nil_of_required correlationId, absurd (by decide),
    fun _ => named_ne_nil_of_required email,
    fun name inBody _ => EventBody.named_ne_nil_of_ofFields? body name inBody⟩

theorem complete_of_ofJson? {event : Event} (decoded : ofJson? (.object members) = some event) :
    ∃ kind, member? tagName members = some (.string kind.word) ∧
      (schema kind).Complete members := by
  rw [ofJson?] at decoded
  split at decoded
  · next once =>
      have once : (named tagName members).length ≤ 1 := by
        rwa [List.countP_eq_length_filter] at once
      simp only [Option.bind_eq_bind, Option.bind_eq_some_iff] at decoded
      obtain ⟨tag, found, word, isText, kind, isWord, decoded⟩ := decoded
      have tagged : named tagName members ≠ [] := by
        intro absent
        rw [member?_eq_head?, absent] at found
        cases found
      obtain rfl := text?_eq_some_iff.mp isText
      obtain rfl := EventKind.word_of_ofWord? isWord
      rw [ofRecord?_untagged] at decoded
      exact ⟨kind, found, complete_of_ofRecord? once tagged decoded⟩
  · cases decoded

end Record

section Arranged

variable {event : Event} {shown members : List (String × Json)}

theorem map_fst_showing (fits : shown.map Prod.fst = EventBody.fieldNames event.kind) :
    (event.showing shown).map Prod.fst = (schema event.kind).names :=
  congrArg (tagName :: ·) (map_fst_fields fits)

theorem member?_tag : member? tagName (event.showing shown) = some (.string event.kind.word) := by
  simp [member?, showing]

theorem tag_needed : tagName ∉ (schema event.kind).omittable := by
  simp [schema, tagName]

/-- However its members are arranged, an event is read if what it shows of its body is. -/
theorem ofJson?_arranged (fits : shown.map Prod.fst = EventBody.fieldNames event.kind)
    (arranged : Arranged (schema event.kind) (event.showing shown) members) :
    ofJson? (.object members) =
      (EventBody.ofFields? event.kind (shown.map fun member => some member.2)).map
        fun body => { event with body } := by
  have fitsAll := event.map_fst_showing fits
  have known : tagName ∈ (schema event.kind).names := List.mem_cons_self
  have tag : member? tagName members = some (.string event.kind.word) :=
    (arranged.member?_eq fitsAll known tag_needed).trans member?_tag
  have untagged : tagName ∉ (event.envelope ++ shown).map Prod.fst := by
    rw [map_fst_fields fits]
    exact (List.nodup_cons.mp (distinct_names event.kind)).1
  calc ofJson? (.object members)
      = ofRecord? event.kind (.object members) :=
        ofJson?_of_tag ((arranged.kept fitsAll known).once fitsAll) tag
    _ = ofRecord? event.kind (.object (event.showing shown)) :=
        ofRecord?_arranged fitsAll arranged
    _ = ofJson? (.object (event.showing shown)) :=
        (ofJson?_of_tag (once_of_fits fitsAll tagName) member?_tag).symm
    _ = ofRecord? event.kind (.object (event.envelope ++ shown)) := ofJson?_tagged untagged
    _ = _ := ofRecord?_shown fits

/-- If the tag is spoiled no kind can be told; otherwise the fields are not complete. -/
theorem ofJson?_spoiled (fits : shown.map Prod.fst = EventBody.fieldNames event.kind)
    (spoiled : Spoiled (schema event.kind) (event.showing shown) members) :
    ofJson? (.object members) = none := by
  refine Option.eq_none_iff_forall_ne_some.mpr fun other decoded => ?_
  obtain ⟨kind, tag, complete⟩ := complete_of_ofJson? decoded
  obtain ⟨name, known, flawed, others⟩ := spoiled.flawed (event.map_fst_showing fits)
  by_cases isTag : name = tagName
  · subst isTag
    exact complete.not_flawed List.mem_cons_self flawed
  · -- the tag is intact, so the kind that was read is the kind of the event
    have kept := others tagName List.mem_cons_self isTag
    rw [kept.member?_eq tag_needed, member?_tag] at tag
    have same : event.kind = kind :=
      EventKind.word_injective (Json.string.inj (Option.some.inj tag))
    exact complete.not_flawed (same ▸ known) flawed

end Arranged

/-- A value that presents an event: its members arranged, and a profile in it as well. -/
inductive Presented (event : Event) : Json → Prop
  | intro {shown members : List (String × Json)} (shows : event.body.Shown shown)
      (arranged : Arranged (schema event.kind) (event.showing shown) members) :
      Presented event (.object members)

/-- A value that would present an event but for one member, of its own or of its profile, that
was taken away or repeated. -/
inductive Damaged (event : Event) : Json → Prop
  | event {shown members : List (String × Json)} (shows : event.body.Shown shown)
      (spoiled : Spoiled (schema event.kind) (event.showing shown) members) :
      Damaged event (.object members)
  | profile {shown members : List (String × Json)} (damaged : event.body.Damaged shown)
      (arranged : Arranged (schema event.kind) (event.showing shown) members) :
      Damaged event (.object members)

variable {event : Event} {json : Json}

theorem within_showing {shown : List (String × Json)}
    (shallow : ∀ member ∈ shown, member.2.Within 126) :
    ∀ member ∈ event.showing shown, member.2.Within (schema event.kind).depth := by
  intro member inShowing
  rcases List.mem_append.mp inShowing with inFront | inShown
  · rcases List.mem_cons.mp inFront with rfl | inEnvelope
    · exact .string _
    · exact event.within_envelope _ member inEnvelope
  · exact shallow member inShown

theorem Presented.within (presented : event.Presented json) : json.Within maxDepth := by
  cases presented with
  | intro shows arranged => exact .object (arranged.within (within_showing shows.within))

theorem Damaged.within (damaged : event.Damaged json) : json.Within maxDepth := by
  cases damaged with
  | event shows spoiled => exact .object (spoiled.within (within_showing shows.within))
  | profile damaged arranged => exact .object (arranged.within (within_showing damaged.within))

theorem Presented.ofJson? (presented : event.Presented json) : ofJson? json = some event := by
  cases presented with
  | intro shows arranged =>
      rw [ofJson?_arranged shows.map_fst arranged, kind, shows.ofFields?]
      rfl

theorem Damaged.ofJson? (damaged : event.Damaged json) : ofJson? json = none := by
  cases damaged with
  | event shows spoiled => exact ofJson?_spoiled shows.map_fst spoiled
  | profile damaged arranged =>
      rw [ofJson?_arranged damaged.map_fst arranged, kind, damaged.ofFields?]
      rfl

theorem ofWire?_of_spread (within : json.Within maxDepth) {text : String}
    (spread : Spread json.written text.toList) : ofWire? text = ofJson? json := by
  rw [ofWire?, read?_of_spread within spread]
  rfl

/-- A text decodes to the event that its members present, whatever their order, the other
members among them and the blanks between its tokens; and to none if a member is missing that
the event needs, or is repeated. -/
theorem decoded_by_members (event : Event) (json : Json) (text : String)
    (spread : Spread json.written text.toList) :
    (event.Presented json → ofWire? text = some event) ∧
      (event.Damaged json → ofWire? text = none) := by
  constructor
  · intro presented
    rw [ofWire?_of_spread presented.within spread, presented.ofJson?]
  · intro damaged
    rw [ofWire?_of_spread damaged.within spread, damaged.ofJson?]

/-! ### A sample -/

def hiredAccount : Account :=
  .staff { firstName := "a", lastName := "b", middleName := none, position := "c" }

theorem valid_zero : Time.Instant.Valid 0 0 := by decide

def hired : Event :=
  { version := 1, id := .nil, registrationId := ⟨.nil⟩, timestamp := ⟨0, 0, valid_zero⟩
    correlationId := .nil, causationId := none, email := ⟨"a@b"⟩
    body := .completed hiredAccount ⟨""⟩ }

def hiredShown : List (String × Json) :=
  (⟨""⟩ : PasswordHash).besides
    [("first_name", .string "a"), ("last_name", .string "b"), ("grade", ofInt 7),
      ("position", .string "c")]

def hiredTag : String × Json :=
  (tagName, .string "staff_registration_completed")

def hiredFront : List (String × Json) :=
  [("event_version", ofNat 1), ("event_id", ofUuid .nil), ("registration_id", ofUuid .nil),
    ("timestamp", ofInstant hired.timestamp), ("correlation_id", ofUuid .nil)]

def hiredFields : List (String × Json) :=
  hiredFront ++ ("note", .bool true) :: ("email", .string "a@b") :: hiredShown

theorem shown_hired : hired.body.Shown hiredShown := by
  let front : List (String × Json) := [("first_name", .string "a"), ("last_name", .string "b")]
  let back : List (String × Json) := [("position", .string "c")]
  have written : Arranged hiredAccount.schema hiredAccount.toJson.members
      (front ++ ("middle_name", .null) :: back) := .asWritten
  have shorter := written.omit (by decide)
  have longer : Arranged hiredAccount.schema hiredAccount.toJson.members
      (front ++ ("grade", ofInt 7) :: back) :=
    shorter.insert (by decide) (.number (isWhole_ofInt (by decide)))
  exact .completed longer ⟨""⟩

theorem arranged_hired :
    Arranged (schema hired.kind) (hired.showing hiredShown) (hiredFields ++ [hiredTag]) := by
  let front := hiredTag :: hiredFront
  let back := ("email", .string "a@b") :: hiredShown
  have written : Arranged (schema hired.kind) (hired.showing hiredShown)
      (front ++ ("causation_id", .null) :: back) := .asWritten
  have shorter := written.omit (by decide)
  have longer : Arranged (schema hired.kind) (hired.showing hiredShown)
      (front ++ ("note", .bool true) :: back) := shorter.insert (by decide) (.bool true)
  exact longer.permuted (List.perm_append_singleton hiredTag hiredFields).symm

/-- The tag can stand last, but has to stand somewhere. -/
theorem decoded_by_members_of_hired :
    hired.Presented (.object (hiredFields ++ [hiredTag])) ∧
    hired.Damaged (.object hiredFields) ∧
    ofWire? (" " ++ (Json.object (hiredFields ++ [hiredTag])).render) = some hired ∧
    ofWire? (" " ++ (Json.object hiredFields).render) = none := by
  have presented : hired.Presented (.object (hiredFields ++ [hiredTag])) :=
    .intro shown_hired arranged_hired
  have tagFirst := arranged_hired.permuted (List.perm_append_singleton hiredTag hiredFields)
  have damaged : hired.Damaged (.object hiredFields) :=
    .event shown_hired (.removed tagFirst List.mem_cons_self tag_needed)
  have spread {json : Json} (within : json.Within maxDepth) :
      Spread json.written (" " ++ json.render).toList := by
    have text : (" " ++ json.render).toList = ' ' :: json.characters := by simp [render]
    rw [text]
    exact .blank rfl (spread_characters within)
  exact ⟨presented, damaged,
    (decoded_by_members hired _ _ (spread presented.within)).1 presented,
    (decoded_by_members hired _ _ (spread damaged.within)).2 damaged⟩

end Event

end Enrolment
