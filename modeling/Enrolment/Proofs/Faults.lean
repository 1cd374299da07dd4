/-
Steps that are taken one after another until one fails. The error of a chain is the fault of the
first item that has one, and the chain gets through if no item has any.
-/

import Mathlib.Data.List.Basic

namespace Enrolment

variable {ε α β ι : Type}

/-- An error is the fault of the first item that has one. -/
inductive FirstOf (Fault : ι → ε → Prop) : List ι → ε → Prop
  | here {item : ι} {error : ε} (fault : Fault item error) (rest : List ι) :
      FirstOf Fault (item :: rest) error
  | later {item : ι} {rest : List ι} {error : ε} (sound : ∀ other, ¬ Fault item other)
      (first : FirstOf Fault rest error) : FirstOf Fault (item :: rest) error

variable {Fault : ι → ε → Prop} {item : ι} {rest : List ι} {error : ε}

theorem not_firstOf_nil : ¬ FirstOf Fault [] error := nofun

theorem firstOf_cons_iff : FirstOf Fault (item :: rest) error ↔
    Fault item error ∨ (∀ other, ¬ Fault item other) ∧ FirstOf Fault rest error := by
  constructor
  · intro first
    cases first with
    | here fault => exact .inl fault
    | later sound first => exact .inr ⟨sound, first⟩
  · rintro (fault | ⟨sound, first⟩)
    · exact .here fault rest
    · exact .later sound first

theorem exists_firstOf_iff {items : List ι} :
    (∃ error, FirstOf Fault items error) ↔ ∃ item ∈ items, ∃ error, Fault item error := by
  induction items with
  | nil => simp [not_firstOf_nil]
  | cons item rest ih =>
      simp only [firstOf_cons_iff, exists_or, exists_and_left, ih, List.exists_mem_cons_iff]
      by_cases faulty : ∃ error, Fault item error
      · simp only [faulty, true_or]
      · rw [or_iff_right faulty, or_iff_right faulty]
        exact and_iff_right (not_exists.mp faulty)

/-- Items without a fault can be passed over. -/
theorem firstOf_append {front : List ι} (sound : ∀ item ∈ front, ∀ other, ¬ Fault item other)
    (first : FirstOf Fault rest error) : FirstOf Fault (front ++ rest) error := by
  induction front with
  | nil => exact first
  | cons item front ih =>
      rw [List.forall_mem_cons] at sound
      exact .later sound.1 (ih sound.2)

/-! ### Chains -/

theorem bind_eq_ok_iff {first : Except ε α} {next : α → Except ε β} {value : β} :
    (first >>= next) = .ok value ↔ ∃ read, first = .ok read ∧ next read = .ok value := by
  cases first with
  | error cause => simp [bind, Except.bind]
  | ok read => simp [bind, Except.bind]

theorem bind_eq_error_iff {first : Except ε α} {next : α → Except ε β}
    (fails : ∀ other, first = .error other ↔ Fault item other)
    (later : ∀ value, next value = .error error ↔ FirstOf Fault rest error) :
    (first >>= next) = .error error ↔ FirstOf Fault (item :: rest) error := by
  rw [firstOf_cons_iff]
  simp only [← fails]
  cases first with
  | error cause => simp [bind, Except.bind]
  | ok read => simpa [bind, Except.bind] using later read

/-- A chain ends in a success. -/
theorem pure_eq_error_iff {value : α} :
    (pure value : Except ε α) = .error error ↔ FirstOf Fault [] error :=
  iff_of_false nofun not_firstOf_nil

/-- What fails with the first fault of a list succeeds if nothing in the list has one. -/
theorem exists_ok_iff {result : Except ε α} {items : List ι}
    (fails : ∀ error, result = .error error ↔ FirstOf Fault items error) :
    (∃ value, result = .ok value) ↔ ∀ item ∈ items, ∀ error, ¬ Fault item error := by
  have faultless : (∀ item ∈ items, ∀ error, ¬ Fault item error) ↔
      ¬ ∃ error, result = .error error := by
    simp only [fails, exists_firstOf_iff, not_exists, not_and]
  rw [faultless]
  cases result with
  | error cause => simp
  | ok value => simp

theorem map_eq_ok_iff {read : Except ε α} {wrap : α → β} {value : β} :
    read.map wrap = .ok value ↔ ∃ core, read = .ok core ∧ wrap core = value := by
  cases read with
  | error cause => simp [Except.map]
  | ok core => simp [Except.map]

theorem map_eq_error_iff {read : Except ε α} {wrap : α → β} :
    read.map wrap = .error error ↔ read = .error error := by
  cases read with
  | error cause => simp [Except.map]
  | ok core => simp [Except.map]

end Enrolment
