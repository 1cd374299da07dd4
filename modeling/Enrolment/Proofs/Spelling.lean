/-
One address, however it is spelled. The form in which an address is kept is read back unchanged,
and two texts give the same address when nothing but blanks around them and the case of letters
tells them apart. No call can tell such texts apart either.
-/

import Enrolment.Proofs.Address
import Enrolment.Proofs.Errand

namespace Enrolment

open Text

/-- The same text but for the case of its ASCII letters. -/
def EqUpToCase (characters others : List Char) : Prop :=
  characters.map Char.toLower = others.map Char.toLower

/-! ### Calls spelled differently -/

def Call.at (text : String) : Call → Call
  | .start _ => .start text
  | .verify _ candidate => .verify text candidate
  | .check _ candidate => .check text candidate
  | .resend _ => .resend text
  | .complete _ candidate account password => .complete text candidate account password
  | .findByEmail _ => .findByEmail text
  | .findById id => .findById id

inductive Request.Respelled (text other : String) : Request → Request → Prop
  | same (request : Request) : Respelled text other request request
  | respelled (moment : Moment) (call : Call) :
      Respelled text other { moment, call := call.at text } { moment, call := call.at other }

def Errand.email? : Errand → Option Email
  | .refuse _ | .find (.id _) => none
  | .save registration => some registration.email
  | .find (.email email) => some email
  | .operate email _ => some email

structure Interchangeable (text other : String) : Prop where
  /-- Whatever stands behind the service, and in whatever state. -/
  performed : ∀ {σ π : Type} (service : Service σ π) (moment : Moment) (backends : Backends σ π)
    (call : Call), service.perform moment backends (call.at text) =
      service.perform moment backends (call.at other)
  history : ∀ {π : Type} (publisher : Publisher π) (policy : Policy) (derive : Derivation)
    (backends : Backends Store π) (requests others : List Request),
    List.Forall₂ (Request.Respelled text other) requests others →
      (Service.inMemory publisher policy derive).afterAll backends requests =
        (Service.inMemory publisher policy derive).afterAll backends others

namespace Email

/-- An address in its kept form, and the texts that give it. -/
structure Canonical (text : String) (email : Email) : Prop where
  stable : parse email.address = .ok email
  parts : ∃ mailbox, email.address.toList = mailbox ++ '@' :: email.domain.toList ∧
    mailbox ≠ [] ∧ '@' ∉ mailbox ∧ email.domain ≠ "" ∧ '@' ∉ email.domain.toList
  same_iff : ∀ other core otherCore, Stripped text.toList core →
    Stripped other.toList otherCore → (parse other = .ok email ↔ EqUpToCase core otherCore)
  interchangeable : ∀ other, parse other = .ok email → Interchangeable text other
  /-- A call that names the text acts on what is kept for the address, unless it fails for a
  reason that is not in the text. -/
  named : ∀ (policy : Policy) (derive : Derivation) (request : Request),
    request.address? = some text →
      (request.errand policy derive).email? = some email ∨
        ∃ error, request.errand policy derive = .refuse error ∧ error.kind = .internal

/-! ### Letters -/

theorem toLower_of_not_isAlpha {character : Char} (other : character.isAlpha = false) :
    character.toLower = character := by
  apply Char.toLower_eq_of_not_isUpper
  intro upper
  rw [Char.isAlpha, upper, Bool.true_or] at other
  cases other

theorem toLower_eq_iff {character mark : Char} (other : mark.isAlpha = false) :
    character.toLower = mark ↔ character = mark := by
  constructor
  · rintro rfl
    rw [Char.isAlpha_toLower_eq_isAlpha] at other
    exact (toLower_of_not_isAlpha other).symm
  · rintro rfl
    exact toLower_of_not_isAlpha other

theorem isLetterOrDigit_toLower (character : Char) :
    isLetterOrDigit character.toLower = isLetterOrDigit character := by
  rw [Bool.eq_iff_iff, isLetterOrDigit_iff, isLetterOrDigit_iff, Char.isAlphanum, Char.isAlphanum,
    Char.isAlpha_toLower_eq_isAlpha]
  cases letter : character.isAlpha with
  | true => rfl
  | false => rw [toLower_of_not_isAlpha letter]

theorem isWordCharacter_toLower (character : Char) :
    isWordCharacter character.toLower = isWordCharacter character := by
  have marks : wordMarks.all (fun mark => !mark.isAlpha) = true := by decide
  have other {mark : Char} (member : mark ∈ wordMarks) : mark.isAlpha = false := by
    simpa using List.all_eq_true.mp marks mark member
  have mark : character.toLower ∈ wordMarks ↔ character ∈ wordMarks := by
    constructor
    · intro member
      rwa [(toLower_eq_iff (other member)).mp rfl]
    · intro member
      rwa [toLower_of_not_isAlpha (other member)]
  rw [isWordCharacter, isWordCharacter, isLetterOrDigit_toLower, Bool.eq_iff_iff, Bool.or_eq_true,
    Bool.or_eq_true, List.contains_iff_mem, List.contains_iff_mem, mark]

theorem utf8Size_toLower (character : Char) : character.toLower.utf8Size = character.utf8Size := by
  by_cases upper : character.isUpper = true
  · have letter : character.isAlphanum = true := by
      rw [Char.isAlphanum, Char.isAlpha, upper]
      rfl
    have small : character.toLower.isAlphanum = true := by
      rw [← isLetterOrDigit_iff, isLetterOrDigit_toLower, isLetterOrDigit_iff]
      exact letter
    rw [(isGraphic_of_isAlphanum letter).utf8Size, (isGraphic_of_isAlphanum small).utf8Size]
  · rw [Char.toLower_eq_of_not_isUpper upper]

theorem byteLength_map_toLower (characters : List Char) :
    byteLength (characters.map Char.toLower) = byteLength characters := by
  induction characters with
  | nil => rfl
  | cons head tail ih => rw [List.map_cons, byteLength_cons, byteLength_cons, utf8Size_toLower, ih]

theorem isLocalPart_map_toLower (characters : List Char) :
    isLocalPart (characters.map Char.toLower) = isLocalPart characters := by
  have word (characters : List Char) :
      isWord (characters.map Char.toLower) = isWord characters := by
    simp only [isWord, List.all_map, Function.comp_def, isWordCharacter_toLower, ne_eq,
      List.map_eq_nil_iff]
  rw [isLocalPart, pieces_map fun _ => toLower_eq_iff rfl, List.all_map, Function.comp_def]
  simp only [word]
  rfl

theorem isDomain_map_toLower (characters : List Char) :
    isDomain (characters.map Char.toLower) = isDomain characters := by
  have hyphen (character : Char) : (character.toLower == '-') = (character == '-') := by
    rw [Bool.eq_iff_iff, beq_iff_eq, beq_iff_eq]
    exact toLower_eq_iff rfl
  have atEdge (edge : Option Char) : (edge.map Char.toLower != some '-') = (edge != some '-') := by
    cases edge with
    | none => rfl
    | some character => exact congrArg not (hyphen character)
  have label (characters : List Char) :
      isLabel (characters.map Char.toLower) = isLabel characters := by
    simp only [isLabel, List.all_map, Function.comp_def, isLetterOrDigit_toLower, hyphen, atEdge,
      List.length_map, List.head?_map, List.getLast?_map]
  rw [isDomain, pieces_map fun _ => toLower_eq_iff rfl, List.all_map, Function.comp_def]
  simp only [label]
  rfl

/-! ### Addresses -/

theorem isAddress_map_toLower_iff {characters : List Char} :
    IsAddress (characters.map Char.toLower) ↔ IsAddress characters := by
  have cutSmall : cutLast '@' (characters.map Char.toLower) =
      (cutLast '@' characters).map (Prod.map (List.map Char.toLower) (List.map Char.toLower)) :=
    cutLast_map (fun _ => toLower_eq_iff rfl) characters
  cases cut : cutLast '@' characters with
  | none =>
      rw [cut] at cutSmall
      exact iff_of_false (not_isAddress_of_noSign (cutLast_eq_none_iff.mp cutSmall))
        (not_isAddress_of_noSign (cutLast_eq_none_iff.mp cut))
  | some pair =>
      rw [cut] at cutSmall
      rw [isAddress_iff_of_cut cutSmall, isAddress_iff_of_cut cut, isMailbox_iff, isMailbox_iff,
        isHost_iff, isHost_iff, byteLength_map_toLower, byteLength_map_toLower,
        isLocalPart_map_toLower, isDomain_map_toLower]

theorem IsMailbox.noSign {characters : List Char} (isMailbox : IsMailbox characters) :
    '@' ∉ characters := by
  intro sign
  exact absurd (isMailbox.allowed '@' sign) (by unfold InMailbox; decide)

theorem IsHost.ne_nil {characters : List Char} (isHost : IsHost characters) :
    characters ≠ [] := by
  rintro rfl
  have label := isHost_iff_pieces.mp isHost [] (List.mem_singleton.mpr rfl)
  cases label.length.1

theorem IsAddress.isGraphic {characters : List Char} (isAddress : IsAddress characters) :
    ∀ character ∈ characters, IsGraphic character := by
  obtain ⟨_, mailbox, host, rfl, isMailbox, isHost⟩ := isAddress
  rw [List.forall_mem_append, List.forall_mem_cons]
  refine ⟨fun character member => (isMailbox.allowed character member).isGraphic,
    by decide, fun character member => ?_⟩
  by_cases dot : character = '.'
  · rw [dot]
    decide
  · rcases isHost.allowed character member dot with letterOrDigit | rfl
    · exact isGraphic_of_isAlphanum letterOrDigit
    · decide

theorem IsGraphic.visible {character : Char} (isGraphic : IsGraphic character) :
    isBlank character = false := by
  obtain ⟨low, high⟩ := isGraphic
  simp only [isBlank, Bool.or_eq_false_iff, Bool.and_eq_false_iff, decide_eq_false_iff_not,
    beq_eq_false_iff_ne]
  omega

/-! ### The kept form -/

section Kept

variable {text : String} {email : Email}

theorem toList_address (accepted : parse text = .ok email) :
    email.address.toList = (strip text.toList).map Char.toLower := by
  rw [(parse_eq_ok_iff.mp accepted).2, String.toList_ofList]

theorem isAddress_address (accepted : parse text = .ok email) :
    IsAddress email.address.toList := by
  rw [toList_address accepted, isAddress_map_toLower_iff]
  exact (parse_eq_ok_iff.mp accepted).1

theorem parse_address (accepted : parse text = .ok email) : parse email.address = .ok email := by
  have isAddress := isAddress_address accepted
  have bare : strip email.address.toList = email.address.toList :=
    strip_of_visible fun character member => (isAddress.isGraphic character member).visible
  have small : email.address.toList.map Char.toLower = email.address.toList := by
    rw [toList_address accepted, List.map_map]
    exact List.map_congr_left fun character _ => Char.toLower_toLower_eq_toLower character
  rw [parse_eq_ok_iff, bare, small, String.ofList_toList]
  exact ⟨isAddress, rfl⟩

theorem domain_eq {mailbox host : List Char}
    (parts : email.address.toList = mailbox ++ '@' :: host) (last : '@' ∉ host) :
    email.domain = String.ofList host := by
  rw [domain, parts, cutLast_append last]

theorem parse_eq_ok_iff_spelling (accepted : parse text = .ok email) (other : String) :
    parse other = .ok email ↔ EqUpToCase (strip text.toList) (strip other.toList) := by
  obtain ⟨isAddress, kept⟩ := parse_eq_ok_iff.mp accepted
  rw [parse_eq_ok_iff, kept, EqUpToCase]
  constructor
  · rintro ⟨_, same⟩
    exact String.ofList_injective same
  · intro same
    refine ⟨?_, congrArg String.ofList same⟩
    rwa [← isAddress_map_toLower_iff, ← same, isAddress_map_toLower_iff]

end Kept

end Email

/-! ### Calls -/

section Same

variable {text other : String} (same : Email.parse text = Email.parse other)

include same

theorem Registration.issue_spelling (policy : Policy) (occasion : Occasion) (id : RegistrationId) :
    issue policy occasion id text = issue policy occasion id other := by
  rw [issue, issue, same]

theorem Service.perform_spelling {σ π : Type} (service : Service σ π) (moment : Moment)
    (backends : Backends σ π) (call : Call) :
    service.perform moment backends (call.at text) =
      service.perform moment backends (call.at other) := by
  have executed (command : Command) :
      service.execute moment text command = service.execute moment other command := by
    unfold execute withAddress
    rw [same]
  cases call with
  | start address =>
      unfold perform Call.at
      dsimp only
      rw [Registration.issue_spelling same]
  | verify address candidate | check address candidate =>
      exact congrFun (executed _) backends
  | resend address => exact congrFun (executed _) backends
  | complete address candidate account password =>
      unfold perform Call.at
      dsimp only
      simp only [executed]
  | findByEmail address =>
      unfold perform Call.at withAddress
      dsimp only
      rw [same]
  | findById id => rfl

theorem Service.serve_respelled {π : Type} (service : Service Store π)
    (backends : Backends Store π) {request respelled : Request}
    (pair : Request.Respelled text other request respelled) :
    service.serve backends request = service.serve backends respelled := by
  cases pair with
  | same => rfl
  | respelled moment call => exact perform_spelling same service moment backends call

theorem Service.afterAll_respelled {π : Type} (service : Service Store π)
    (backends : Backends Store π) {requests others : List Request}
    (pairs : List.Forall₂ (Request.Respelled text other) requests others) :
    service.afterAll backends requests = service.afterAll backends others := by
  induction pairs generalizing backends with
  | nil => rfl
  | cons pair _ ih =>
      unfold afterAll
      rw [List.foldl_cons, List.foldl_cons, serve_respelled same service backends pair]
      exact ih _

theorem interchangeable : Interchangeable text other := by
  constructor
  · intro σ π service moment backends call
    exact service.perform_spelling same moment backends call
  · intro π publisher policy derive backends requests others pairs
    exact Service.afterAll_respelled same _ backends pairs

end Same

theorem Registration.kind_of_issue_error {policy : Policy} {occasion : Occasion}
    {id : RegistrationId} {text : String} {email : Email} {error : RegistrationError}
    (accepted : Email.parse text = .ok email)
    (failed : issue policy occasion id text = .error error) : error.kind = .internal := by
  unfold issue at failed
  rw [accepted] at failed
  cases drawn : Code.generate policy.codeLength occasion.entropy with
  | error cause =>
      rw [drawn] at failed
      rw [← Except.error.inj failed, Code.generate_error drawn]
      rfl
  | ok pair =>
      cases set : timers policy occasion.now with
      | ok instants =>
          rw [drawn, set] at failed
          cases failed
      | error cause =>
          rw [drawn, set] at failed
          obtain ⟨field, overflow⟩ := timers_error set
          rw [← Except.error.inj failed, overflow]
          rfl

theorem Password.kind_of_hash_error {derive : Derivation} {cost : HashingCost} {salt : Salt}
    {password : Password} {error : RegistrationError}
    (failed : password.hash derive cost salt = .error error) : error.kind = .internal := by
  unfold hash at failed
  split at failed
  · rw [← Except.error.inj failed]
    rfl
  · cases failed

theorem Request.email?_errand {policy : Policy} {derive : Derivation} {request : Request}
    {text : String} {email : Email} (named : request.address? = some text)
    (accepted : Email.parse text = .ok email) :
    (request.errand policy derive).email? = some email ∨
      ∃ error, request.errand policy derive = .refuse error ∧ error.kind = .internal := by
  obtain ⟨moment, call⟩ := request
  have reached (next : Email → Errand) : Errand.toAddress text next = next email := by
    unfold Errand.toAddress
    rw [accepted]
  cases call with
  | findById id => cases named
  | start address =>
      obtain rfl : address = text := Option.some.inj named
      unfold errand
      dsimp only
      cases issued : Registration.issue policy moment.occasion moment.registrationId address with
      | error error =>
          exact .inr ⟨error, rfl, Registration.kind_of_issue_error accepted issued⟩
      | ok registration =>
          obtain ⟨own, code, unused, codeExpiresAt, resendTimeout, parsed, _, _, rfl⟩ :=
            Registration.issue_eq_ok issued
          left
          exact congrArg some (Except.ok.inj (parsed.symm.trans accepted))
  | verify address candidate | check address candidate =>
      obtain rfl : address = text := Option.some.inj named
      exact .inl (congrArg Errand.email? (reached _))
  | resend address | findByEmail address =>
      obtain rfl : address = text := Option.some.inj named
      exact .inl (congrArg Errand.email? (reached _))
  | complete address candidate account password =>
      obtain rfl : address = text := Option.some.inj named
      unfold errand
      dsimp only
      cases hashed : password.hash derive policy.hashing moment.salt with
      | error error => exact .inr ⟨error, rfl, Password.kind_of_hash_error hashed⟩
      | ok hash => exact .inl (congrArg Errand.email? (reached _))

/-- What is kept of an accepted address is all that matters about its text. -/
theorem Email.canonical {text : String} {email : Email} (accepted : parse text = .ok email) :
    Canonical text email := by
  constructor
  · exact parse_address accepted
  · obtain ⟨_, mailbox, host, parts, isMailbox, isHost⟩ := isAddress_address accepted
    have domain : email.domain = String.ofList host := domain_eq parts isHost.noSign
    refine ⟨mailbox, ?_, List.ne_nil_of_length_pos isMailbox.length.1, isMailbox.noSign, ?_, ?_⟩
    · rw [domain, String.toList_ofList, parts]
    · rw [domain]
      intro nothing
      exact isHost.ne_nil (String.ofList_injective nothing)
    · rw [domain, String.toList_ofList]
      exact isHost.noSign
  · intro other core otherCore stripped otherStripped
    rw [stripped_iff.mp stripped, stripped_iff.mp otherStripped]
    exact parse_eq_ok_iff_spelling accepted other
  · intro other otherAccepted
    exact interchangeable (accepted.trans otherAccepted.symm)
  · intro policy derive request named
    exact Request.email?_errand named accepted

theorem canonical_in_capitals :
    Email.parse " A@b.C" = .ok ⟨"a@b.c"⟩ ∧ Email.Canonical " A@b.C" ⟨"a@b.c"⟩ := by
  have accepted : Email.parse " A@b.C" = .ok ⟨"a@b.c"⟩ := rfl
  exact ⟨accepted, Email.canonical accepted⟩

end Enrolment
