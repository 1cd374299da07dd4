/-
The text fields of a profile: what can be wrong with one, and what becomes of one when its
profile is normalized. Validation and normalization fail together, with the fault of the first
field that has one; and a profile that was normalized passes both and stays as it is.
-/

import Enrolment.Profile
import Enrolment.Proofs.Cutting
import Enrolment.Proofs.Faults
import Mathlib.Data.List.Forall2

namespace Enrolment

open Text

namespace Profile

/-! ### Fields -/

/-- A text field of a profile. Only an optional one can be absent. -/
structure Field where
  name : String
  isOptional : Bool
  text : Option String

structure IsNormal (text : String) : Prop where
  trimmed : Stripped text.toList text.toList
  given : text ≠ ""
  short : text.length ≤ maxNameLength

namespace Field

/-- What is wrong with a field. A blank text is a fault only where one is required. -/
inductive Fault (field : Field) : ProfileError → Prop
  | empty {text : String} (given : field.text = some text) (required : field.isOptional = false)
      (blank : Stripped text.toList []) : Fault field (.emptyField field.name)
  | tooLong {text : String} {core : List Char} (given : field.text = some text)
      (stripped : Stripped text.toList core) (long : maxNameLength < core.length) :
      Fault field (.tooLong field.name maxNameLength)

inductive Becomes (field : Field) : Field → Prop
  | trimmed {text core : String} (given : field.text = some text)
      (stripped : Stripped text.toList core.toList) (normal : IsNormal core) :
      Becomes field { field with text := some core }
  | blank {text : String} (given : field.text = some text) (optional : field.isOptional = true)
      (blank : Stripped text.toList []) : Becomes field { field with text := none }
  | absent (absent : field.text = none) (optional : field.isOptional = true) :
      Becomes field { field with text := none }

end Field

/-! ### One field -/

section Reading

variable {name text : String} {error : ProfileError}

theorem required_eq_ok_iff {normal : String} :
    required name text = .ok normal ↔ Stripped text.toList normal.toList ∧ IsNormal normal := by
  constructor
  · intro passed
    simp only [required] at passed
    split at passed
    · cases passed
    · next given =>
        split at passed
        · cases passed
        · next short =>
            obtain rfl := Except.ok.inj passed
            have stripped := stripped_strip text.toList
            rw [String.toList_ofList]
            refine ⟨stripped, ?_, ?_, ?_⟩
            · rw [String.toList_ofList]
              exact stripped.self
            · simpa using given
            · rw [String.length_ofList]
              exact Nat.le_of_not_lt short
  · rintro ⟨stripped, normal⟩
    have core := stripped_iff.mp stripped
    have given : strip text.toList ≠ [] := by
      rw [← core]
      simpa using normal.given
    have short : ¬ maxNameLength < (strip text.toList).length := by
      rw [← core, String.length_toList]
      exact Nat.not_lt.mpr normal.short
    simp only [required, if_neg given, if_neg short]
    rw [← core, String.ofList_toList]

theorem required_eq_error_iff :
    required name text = .error error ↔ Field.Fault ⟨name, false, some text⟩ error := by
  constructor
  · intro failed
    simp only [required] at failed
    split at failed
    · next blank =>
        obtain rfl := Except.error.inj failed
        exact .empty rfl rfl (stripped_iff.mpr blank.symm)
    · next given =>
        split at failed
        · next long =>
            obtain rfl := Except.error.inj failed
            exact .tooLong rfl (stripped_strip text.toList) long
        · cases failed
  · intro fault
    cases fault with
    | empty given required blank =>
        obtain rfl := Option.some.inj given
        simp only [Profile.required, if_pos (stripped_iff.mp blank).symm]
    | tooLong given stripped long =>
        obtain rfl := Option.some.inj given
        rw [stripped_iff.mp stripped] at long
        have given : strip text.toList ≠ [] := by
          intro blank
          rw [blank] at long
          exact absurd long (by decide)
        simp only [Profile.required, if_neg given, if_pos long]

theorem required_becomes_iff {normal : String} :
    required name text = .ok normal ↔
      Field.Becomes ⟨name, false, some text⟩ ⟨name, false, some normal⟩ := by
  rw [required_eq_ok_iff]
  constructor
  · rintro ⟨stripped, normal⟩
    exact .trimmed rfl stripped normal
  · intro becomes
    cases becomes with
    | trimmed given stripped normal =>
        obtain rfl := Option.some.inj given
        exact ⟨stripped, normal⟩

theorem optional_of_given (given : strip text.toList ≠ []) :
    optional name (some text) = (required name text).map some := by
  simp only [optional, if_neg given]

theorem optional_becomes_iff {text normal : Option String} :
    optional name text = .ok normal ↔
      Field.Becomes ⟨name, true, text⟩ ⟨name, true, normal⟩ := by
  constructor
  · intro passed
    cases text with
    | none =>
        obtain rfl := Except.ok.inj passed
        exact .absent rfl rfl
    | some text =>
        by_cases blank : strip text.toList = []
        · simp only [optional, if_pos blank] at passed
          obtain rfl := Except.ok.inj passed
          exact .blank rfl rfl (stripped_iff.mpr blank.symm)
        · rw [optional_of_given blank] at passed
          cases read : required name text with
          | error error => rw [read] at passed; cases passed
          | ok core =>
              rw [read] at passed
              obtain rfl := Except.ok.inj passed
              obtain ⟨stripped, normal⟩ := required_eq_ok_iff.mp read
              exact .trimmed rfl stripped normal
  · intro becomes
    cases becomes with
    | @trimmed text core given stripped normal =>
        obtain rfl : _ = some text := given
        have some : strip text.toList ≠ [] := by
          rw [← stripped_iff.mp stripped]
          simpa using normal.given
        rw [optional_of_given some, required_eq_ok_iff.mpr ⟨stripped, normal⟩]
        rfl
    | @blank text given _ blank =>
        obtain rfl : _ = some text := given
        simp only [optional, if_pos (stripped_iff.mp blank).symm]
    | absent absent =>
        obtain rfl : _ = none := absent
        rfl

theorem optional_eq_error_iff {text : Option String} :
    optional name text = .error error ↔ Field.Fault ⟨name, true, text⟩ error := by
  constructor
  · intro failed
    cases text with
    | none => cases failed
    | some text =>
        by_cases blank : strip text.toList = []
        · simp only [optional, if_pos blank] at failed
          cases failed
        · rw [optional_of_given blank] at failed
          cases read : required name text with
          | ok core => rw [read] at failed; cases failed
          | error cause =>
              rw [read] at failed
              obtain rfl := Except.error.inj failed
              -- a text that is not blank has the same fault wherever it stands
              cases required_eq_error_iff.mp read with
              | empty given _ empty =>
                  obtain rfl := Option.some.inj given
                  exact absurd (stripped_iff.mp empty).symm blank
              | tooLong given stripped long => exact .tooLong given stripped long
  · intro fault
    cases fault with
    | empty _ required => cases required
    | @tooLong text core given stripped long =>
        obtain rfl : _ = some text := given
        have some : strip text.toList ≠ [] := by
          rw [← stripped_iff.mp stripped]
          intro nothing
          rw [nothing] at long
          exact absurd long (by decide)
        have failed : required name text = .error (.tooLong name maxNameLength) :=
          required_eq_error_iff.mpr (.tooLong rfl stripped long)
        rw [optional_of_given some, failed]
        rfl

end Reading

/-! ### Several fields -/

theorem Field.Becomes.self {field normal : Field} (becomes : field.Becomes normal) :
    normal.Becomes normal := by
  cases becomes with
  | trimmed given stripped normal => exact .trimmed rfl stripped.self normal
  | blank given optional blank => exact .absent rfl optional
  | absent absent optional => exact .absent rfl optional

theorem Field.becomes_self {field : Field}
    (present : field.text = none → field.isOptional = true)
    (normal : ∀ text, field.text = some text → IsNormal text) : field.Becomes field := by
  obtain ⟨name, isOptional, text⟩ := field
  cases text with
  | none => exact .absent rfl (present rfl)
  | some text => exact .trimmed rfl (normal text rfl).trimmed (normal text rfl)

theorem Field.Becomes.isNormal {field normal : Field} (becomes : field.Becomes normal) :
    ∀ text, normal.text = some text → IsNormal text := by
  intro text given
  cases becomes with
  | trimmed _ _ normal => rwa [← Option.some.inj given]
  | blank | absent => cases given

theorem forall_mem_of_becomes {fields normal : List Field}
    (become : List.Forall₂ Field.Becomes fields normal) :
    ∀ field ∈ normal, field.Becomes field ∧ ∀ text, field.text = some text → IsNormal text := by
  induction become with
  | nil => exact List.forall_mem_nil _
  | cons becomes _ ih =>
      rw [List.forall_mem_cons]
      exact ⟨⟨becomes.self, becomes.isNormal⟩, ih⟩

/-! ### Whole profiles -/

/-- How validating a profile and normalizing it go together. -/
structure Agreement {α : Type} (fields : α → List Field) (normalize : α → Except ProfileError α)
    (validate : α → Except ProfileError Unit) (profile : α) : Prop where
  passes_iff : validate profile = .ok () ↔ ∃ normal, normalize profile = .ok normal
  fails_iff : ∀ error, validate profile = .error error ↔ normalize profile = .error error
  firstFault : ∀ error,
    normalize profile = .error error ↔ FirstOf Field.Fault (fields profile) error
  become : ∀ normal, normalize profile = .ok normal →
    List.Forall₂ Field.Becomes (fields profile) (fields normal)
  normal : ∀ normal, normalize profile = .ok normal →
    ∀ field ∈ fields normal, ∀ text, field.text = some text → IsNormal text
  passesAgain : ∀ normal, normalize profile = .ok normal → validate normal = .ok ()
  stays : ∀ normal, normalize profile = .ok normal → normalize normal = .ok normal

theorem Agreement.intro {α : Type} {fields : α → List Field}
    {normalize : α → Except ProfileError α} {validate : α → Except ProfileError Unit}
    (refuses : ∀ profile error,
      normalize profile = .error error ↔ FirstOf Field.Fault (fields profile) error)
    (objects : ∀ profile error,
      validate profile = .error error ↔ FirstOf Field.Fault (fields profile) error)
    (become : ∀ profile normal, normalize profile = .ok normal →
      List.Forall₂ Field.Becomes (fields profile) (fields normal))
    (stays : ∀ profile, (∀ field ∈ fields profile, field.Becomes field) →
      normalize profile = .ok profile)
    (profile : α) : Agreement fields normalize validate profile := by
  have passes_iff (profile : α) :
      validate profile = .ok () ↔ ∃ normal, normalize profile = .ok normal := by
    rw [exists_ok_iff (refuses profile), ← exists_ok_iff (objects profile), Unique.exists_iff]
  have again (normal : α) (normalized : normalize profile = .ok normal) :
      normalize normal = .ok normal :=
    stays normal fun field member => (forall_mem_of_becomes (become _ _ normalized) field member).1
  exact
    { passes_iff := passes_iff profile
      fails_iff := fun error => (objects profile error).trans (refuses profile error).symm
      firstFault := refuses profile
      become := become profile
      normal := fun normal normalized field member =>
        (forall_mem_of_becomes (become _ _ normalized) field member).2
      passesAgain := fun normal normalized =>
        (passes_iff normal).mpr ⟨normal, again normal normalized⟩
      stays := again }

end Profile

open Profile

namespace StudentProfile

def fields (profile : StudentProfile) : List Field :=
  [⟨"barcode", false, some profile.barcode⟩, ⟨"first_name", false, some profile.firstName⟩,
    ⟨"last_name", false, some profile.lastName⟩, ⟨"middle_name", true, profile.middleName⟩]

theorem normalize_eq_error_iff {profile : StudentProfile} {error : ProfileError} :
    profile.normalize = .error error ↔ FirstOf Field.Fault profile.fields error :=
  bind_eq_error_iff (fun _ => required_eq_error_iff) fun _ =>
  bind_eq_error_iff (fun _ => required_eq_error_iff) fun _ =>
  bind_eq_error_iff (fun _ => required_eq_error_iff) fun _ =>
  bind_eq_error_iff (fun _ => optional_eq_error_iff) fun _ => pure_eq_error_iff

theorem validate_eq_error_iff {profile : StudentProfile} {error : ProfileError} :
    profile.validate = .error error ↔ FirstOf Field.Fault profile.fields error :=
  bind_eq_error_iff (fun _ => required_eq_error_iff) fun _ =>
  bind_eq_error_iff (fun _ => required_eq_error_iff) fun _ =>
  bind_eq_error_iff (fun _ => required_eq_error_iff) fun _ =>
  bind_eq_error_iff (fun _ => optional_eq_error_iff) fun _ => pure_eq_error_iff

theorem normalize_eq_ok_iff {profile normal : StudentProfile} :
    profile.normalize = .ok normal ↔
      List.Forall₂ Field.Becomes profile.fields normal.fields ∧
        normal.groupId = profile.groupId := by
  simp only [fields, List.forall₂_cons, List.forall₂_nil_left_iff, and_true,
    ← required_becomes_iff, ← optional_becomes_iff, normalize, bind_eq_ok_iff]
  constructor
  · rintro ⟨_, barcode, _, firstName, _, lastName, _, middleName, built⟩
    obtain rfl := Except.ok.inj built
    exact ⟨⟨barcode, firstName, lastName, middleName⟩, rfl⟩
  · rintro ⟨⟨barcode, firstName, lastName, middleName⟩, groupId⟩
    refine ⟨_, barcode, _, firstName, _, lastName, _, middleName, ?_⟩
    rw [← groupId]
    rfl

theorem agreement (profile : StudentProfile) : Agreement fields normalize validate profile :=
  .intro (fun _ _ => normalize_eq_error_iff) (fun _ _ => validate_eq_error_iff)
    (fun _ _ normalized => (normalize_eq_ok_iff.mp normalized).1)
    (fun _ normal => normalize_eq_ok_iff.mpr ⟨List.forall₂_same.mpr normal, rfl⟩) profile

end StudentProfile

namespace StaffProfile

def fields (profile : StaffProfile) : List Field :=
  [⟨"first_name", false, some profile.firstName⟩, ⟨"last_name", false, some profile.lastName⟩,
    ⟨"middle_name", true, profile.middleName⟩, ⟨"position", false, some profile.position⟩]

theorem normalize_eq_error_iff {profile : StaffProfile} {error : ProfileError} :
    profile.normalize = .error error ↔ FirstOf Field.Fault profile.fields error :=
  bind_eq_error_iff (fun _ => required_eq_error_iff) fun _ =>
  bind_eq_error_iff (fun _ => required_eq_error_iff) fun _ =>
  bind_eq_error_iff (fun _ => optional_eq_error_iff) fun _ =>
  bind_eq_error_iff (fun _ => required_eq_error_iff) fun _ => pure_eq_error_iff

theorem validate_eq_error_iff {profile : StaffProfile} {error : ProfileError} :
    profile.validate = .error error ↔ FirstOf Field.Fault profile.fields error :=
  bind_eq_error_iff (fun _ => required_eq_error_iff) fun _ =>
  bind_eq_error_iff (fun _ => required_eq_error_iff) fun _ =>
  bind_eq_error_iff (fun _ => optional_eq_error_iff) fun _ =>
  bind_eq_error_iff (fun _ => required_eq_error_iff) fun _ => pure_eq_error_iff

theorem normalize_eq_ok_iff {profile normal : StaffProfile} :
    profile.normalize = .ok normal ↔
      List.Forall₂ Field.Becomes profile.fields normal.fields := by
  simp only [fields, List.forall₂_cons, List.forall₂_nil_left_iff, and_true,
    ← required_becomes_iff, ← optional_becomes_iff, normalize, bind_eq_ok_iff]
  constructor
  · rintro ⟨_, firstName, _, lastName, _, middleName, _, position, built⟩
    obtain rfl := Except.ok.inj built
    exact ⟨firstName, lastName, middleName, position⟩
  · rintro ⟨firstName, lastName, middleName, position⟩
    exact ⟨_, firstName, _, lastName, _, middleName, _, position, rfl⟩

theorem agreement (profile : StaffProfile) : Agreement fields normalize validate profile :=
  .intro (fun _ _ => normalize_eq_error_iff) (fun _ _ => validate_eq_error_iff)
    (fun _ _ normalized => normalize_eq_ok_iff.mp normalized)
    (fun _ normal => normalize_eq_ok_iff.mpr (List.forall₂_same.mpr normal)) profile

end StaffProfile

/-- Whatever the texts of a profile, validation passes what normalization passes and fails with
the same error, and normalization has nothing to do on what it gave. -/
theorem Profile.validation_agrees :
    (∀ profile : StudentProfile,
      Agreement StudentProfile.fields StudentProfile.normalize StudentProfile.validate profile) ∧
    ∀ profile : StaffProfile,
      Agreement StaffProfile.fields StaffProfile.normalize StaffProfile.validate profile :=
  ⟨StudentProfile.agreement, StaffProfile.agreement⟩

end Enrolment
