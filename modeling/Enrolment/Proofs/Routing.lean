/-
Which events a subscription takes in. A filter is compared with a subject token by token; under
a root of plain tokens the filter of a subject takes in the events that agree with every part
that is set, and an event's subject tells its kind and its registration.
-/

import Enrolment.Proofs.Numerals
import Enrolment.Subject
import Enrolment.Text.Blank

namespace Enrolment

open Text

namespace Subject

/-! ### Filters -/

structure IsPlain (token : List Char) : Prop where
  nonempty : token ≠ []
  plain : ∀ character ∈ token,
    character ≠ '.' ∧ character ≠ '*' ∧ character ≠ '>' ∧ isBlank character = false

def IsRoot (root : String) : Prop :=
  ∃ tokens, tokens ≠ [] ∧ (∀ token ∈ tokens, IsPlain token) ∧
    root.toList = ['.'].intercalate tokens

/-- A star takes in any one token, and an angle at the end takes in all that are left, at least
one. Other tokens take in themselves. -/
inductive Admits : List (List Char) → List (List Char) → Prop
  | done : Admits [] []
  | same {token : List Char} {filter subject : List (List Char)} (literal : token ≠ ['>'])
      (others : Admits filter subject) : Admits (token :: filter) (token :: subject)
  | any {token : List Char} {filter subject : List (List Char)} (nonempty : token ≠ [])
      (others : Admits filter subject) : Admits (['*'] :: filter) (token :: subject)
  | rest {tokens : List (List Char)} (some : tokens ≠ []) (nonempty : ∀ token ∈ tokens, token ≠ []) :
      Admits [['>']] tokens

def tokens (text : String) : List (List Char) :=
  text.toList.splitOn '.'

/-- Whether whoever subscribes to the filter gets what is sent under the subject. -/
def TakesIn (filter subject : String) : Prop :=
  Admits (tokens filter) (tokens subject)

theorem admits_cons_iff {part token : List Char} {filter subject : List (List Char)}
    (closed : part ≠ ['>']) (isPlain : IsPlain token) :
    Admits (part :: filter) (token :: subject) ↔
      (part = ['*'] ∨ part = token) ∧ Admits filter subject := by
  constructor
  · intro admits
    cases admits with
    | same _ others => exact ⟨.inr rfl, others⟩
    | any _ others => exact ⟨.inl rfl, others⟩
    | rest => exact absurd rfl closed
  · rintro ⟨rfl | rfl, others⟩
    · exact .any isPlain.nonempty others
    · exact .same closed others

theorem IsPlain.ne_angle {token : List Char} (isPlain : IsPlain token) : token ≠ ['>'] := by
  rintro rfl
  exact (isPlain.plain '>' List.mem_cons_self).2.2.1 rfl

theorem IsPlain.ne_star {token : List Char} (isPlain : IsPlain token) : token ≠ ['*'] := by
  rintro rfl
  exact (isPlain.plain '*' List.mem_cons_self).2.1 rfl

theorem IsPlain.noDot {token : List Char} (isPlain : IsPlain token) : '.' ∉ token := by
  intro member
  exact (isPlain.plain '.' member).1 rfl

theorem admits_append_iff {front filter subject : List (List Char)}
    (plain : ∀ token ∈ front, IsPlain token) :
    Admits (front ++ filter) (front ++ subject) ↔ Admits filter subject := by
  induction front with
  | nil => rfl
  | cons token front ih =>
      rw [List.forall_mem_cons] at plain
      obtain ⟨isPlain, others⟩ := plain
      rw [List.cons_append, List.cons_append, admits_cons_iff isPlain.ne_angle isPlain, ih others]
      simp

/-! ### Parts of a subject -/

theorem splitOn_of_noDot {text : List Char} (noDot : '.' ∉ text) : text.splitOn '.' = [text] := by
  have single := List.splitOn_intercalate '.' (List.forall_mem_singleton.mpr noDot)
    (List.cons_ne_nil text [])
  simpa using single

theorem tokens_append_dot (front last : String) :
    tokens (front ++ "." ++ last) = tokens front ++ tokens last := by
  rw [tokens, String.toList_append, String.toList_append, List.append_assoc]
  exact List.splitOnP_append_cons front.toList last.toList rfl

theorem tokens_of_isPlain {text : String} (isPlain : IsPlain text.toList) :
    tokens text = [text.toList] :=
  splitOn_of_noDot isPlain.noDot

theorem IsRoot.plain {root : String} (isRoot : IsRoot root) :
    ∀ token ∈ tokens root, IsPlain token := by
  obtain ⟨names, some, plain, spelled⟩ := isRoot
  rw [tokens, spelled, List.splitOn_intercalate '.' (fun token member => (plain token member).noDot)
    some]
  exact plain

def partText {α : Type} (name : α → String) (part : Option α) : String :=
  (part.map name).getD anyToken

section Part

variable {α : Type} {name : α → String} (injective : Function.Injective name)
  (plain : ∀ value, IsPlain (name value).toList)

include plain

theorem tokens_partText (part : Option α) :
    tokens (partText name part) = [(partText name part).toList] := by
  cases part with
  | none =>
      have noDot : '.' ∉ anyToken.toList := by decide
      exact splitOn_of_noDot noDot
  | some value => exact tokens_of_isPlain (plain value)

theorem partText_ne_angle (part : Option α) : (partText name part).toList ≠ ['>'] := by
  cases part with
  | none =>
      have other : anyToken.toList ≠ ['>'] := by decide
      exact other
  | some value => exact (plain value).ne_angle

include injective

/-- An open part goes with every value, a set one with its own only. -/
theorem partText_iff {part : Option α} {value : α} :
    (partText name part).toList = ['*'] ∨ (partText name part).toList = (name value).toList ↔
      ∀ other, part = some other → value = other := by
  cases part with
  | none => simp [partText, anyToken]
  | some other =>
      have closed := (plain other).ne_star
      simp only [partText, Option.map_some, Option.getD_some, closed, false_or,
        String.toList_inj, injective.eq_iff, Option.some_inj, forall_eq', eq_comm]

end Part

/-! ### Kinds and registrations -/

theorem isPlain_of_all {token : List Char} (nonempty : token ≠ [])
    (plain : token.all (fun character => character ≠ '.' ∧ character ≠ '*' ∧ character ≠ '>' ∧
      isBlank character = false) = true) : IsPlain token := by
  simp only [List.all_eq_true, decide_eq_true_eq] at plain
  exact ⟨nonempty, plain⟩

theorem isPlain_kind (kind : EventKind) : IsPlain kind.token.toList := by
  cases kind with
  | _ => exact isPlain_of_all (by decide) (by decide)

theorem ofToken?_token (kind : EventKind) : EventKind.ofToken? kind.token = some kind := by
  cases kind with
  | _ => rfl

theorem token_injective : Function.Injective EventKind.token := by
  intro left right same
  have read := ofToken?_token left
  rw [same, ofToken?_token] at read
  exact (Option.some.inj read).symm

theorem plain_digitChar {digit : Nat} (small : digit < 16) :
    Nat.digitChar digit ≠ '.' ∧ Nat.digitChar digit ≠ '*' ∧ Nat.digitChar digit ≠ '>' ∧
      isBlank (Nat.digitChar digit) = false := by
  decide +revert

theorem isPlain_registration (id : RegistrationId) : IsPlain id.text.toList := by
  have spelled : id.text.toList = id.uuid.characters := String.toList_ofList
  rw [spelled]
  constructor
  · exact List.ne_nil_of_length_pos (by rw [Uuid.length_characters]; decide)
  · intro character member
    rcases Uuid.mem_grouped member with inDigits | rfl
    · obtain ⟨digit, small, rfl⟩ := Uuid.exists_digit_of_mem_hexDigits inDigits
      exact plain_digitChar small
    · decide

theorem text_injective : Function.Injective RegistrationId.text := by
  intro left right same
  have read : Uuid.ofString? left.text = some left.uuid := Uuid.ofString?_text left.uuid
  rw [same, RegistrationId.text, Uuid.ofString?_text] at read
  exact congrArg RegistrationId.mk (Option.some.inj read).symm

/-! ### Routing -/

theorem tokens_text (subject : Subject) :
    tokens subject.text = tokens subject.root ++
      [(partText EventKind.token subject.kind).toList,
        (partText RegistrationId.text subject.registration).toList] := by
  have spelled : subject.text = subject.root ++ "." ++ partText EventKind.token subject.kind ++
      "." ++ partText RegistrationId.text subject.registration := rfl
  rw [spelled, tokens_append_dot, tokens_append_dot, tokens_partText isPlain_kind,
    tokens_partText isPlain_registration, List.append_assoc, List.singleton_append]

theorem tokens_ofEvent (root : String) (event : Event) :
    tokens (ofEvent root event).text =
      tokens root ++ [event.kind.token.toList, event.registrationId.text.toList] :=
  tokens_text (ofEvent root event)

theorem takesIn_iff {root : String} (isRoot : IsRoot root) {subject : Subject} (event : Event)
    (under : subject.root = root) :
    TakesIn subject.text (ofEvent root event).text ↔
      (∀ kind, subject.kind = some kind → event.kind = kind) ∧
        ∀ registration, subject.registration = some registration →
          event.registrationId = registration := by
  rw [TakesIn, tokens_text, tokens_ofEvent, under, admits_append_iff isRoot.plain,
    admits_cons_iff (partText_ne_angle isPlain_kind _) (isPlain_kind _),
    admits_cons_iff (partText_ne_angle isPlain_registration _) (isPlain_registration _),
    partText_iff token_injective isPlain_kind, partText_iff text_injective isPlain_registration,
    and_iff_left Admits.done]

theorem takesIn_everything {root : String} (isRoot : IsRoot root) (event : Event) :
    TakesIn (everything root) (ofEvent root event).text := by
  have spelled : everything root = root ++ "." ++ ">" := by
    rw [String.append_assoc]
    rfl
  rw [TakesIn, spelled, tokens_append_dot, tokens_ofEvent, admits_append_iff isRoot.plain]
  refine .rest (List.cons_ne_nil _ _) ?_
  rw [List.forall_mem_cons, List.forall_mem_singleton]
  exact ⟨(isPlain_kind _).nonempty, (isPlain_registration _).nonempty⟩

theorem text_ofEvent_iff (root : String) (event other : Event) :
    (ofEvent root event).text = (ofEvent root other).text ↔
      event.kind = other.kind ∧ event.registrationId = other.registrationId := by
  constructor
  · intro same
    have parts := tokens_ofEvent root event
    rw [same, tokens_ofEvent, List.append_right_inj, List.cons.injEq, List.cons.injEq,
      String.toList_inj, String.toList_inj] at parts
    exact ⟨(token_injective parts.1).symm, (text_injective parts.2.1).symm⟩
  · rintro ⟨kind, registration⟩
    rw [ofEvent, ofEvent, kind, registration]

structure Routed (root : String) : Prop where
  parts : ∀ (subject : Subject) (event : Event), subject.root = root →
    (TakesIn subject.text (ofEvent root event).text ↔
      (∀ kind, subject.kind = some kind → event.kind = kind) ∧
        ∀ registration, subject.registration = some registration →
          event.registrationId = registration)
  everything : ∀ event, TakesIn (everything root) (ofEvent root event).text
  same_iff : ∀ event other, (ofEvent root event).text = (ofEvent root other).text ↔
    event.kind = other.kind ∧ event.registrationId = other.registrationId

theorem routes_exactly {root : String} (isRoot : IsRoot root) : Routed root where
  parts _ event under := takesIn_iff isRoot event under
  everything := takesIn_everything isRoot
  same_iff := text_ofEvent_iff root

theorem routes_exactly_in_staging :
    IsRoot "staging.registration" ∧ Routed "staging.registration" := by
  have isRoot : IsRoot "staging.registration" := by
    refine ⟨["staging".toList, "registration".toList], List.cons_ne_nil _ _, ?_, rfl⟩
    rw [List.forall_mem_cons, List.forall_mem_singleton]
    exact ⟨isPlain_of_all (by decide) (by decide), isPlain_of_all (by decide) (by decide)⟩
  exact ⟨isRoot, routes_exactly isRoot⟩

end Subject

end Enrolment
