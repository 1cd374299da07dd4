/-
Texts freed of blanks and texts cut at a separator. What is left without the blanks around it is
determined by the text; the cut at the last separator is the one after which none follows; and
the pieces between separators say of a text where separators stand.
-/

import Enrolment.Text.Blank
import Enrolment.Text.Split
import Mathlib.Data.List.DropRight

namespace Enrolment.Text

/-! ### Blanks -/

/-- What a text is without the blanks around it. -/
structure Stripped (text core : List Char) : Prop where
  surrounded : ∃ before after, text = before ++ core ++ after ∧
    (∀ character ∈ before, isBlank character = true) ∧
    ∀ character ∈ after, isBlank character = true
  first : ∀ character, core.head? = some character → isBlank character = false
  last : ∀ character, core.getLast? = some character → isBlank character = false

theorem Stripped.self {text core : List Char} (stripped : Stripped text core) :
    Stripped core core where
  surrounded := ⟨[], [], by simp, List.forall_mem_nil _, List.forall_mem_nil _⟩
  first := stripped.first
  last := stripped.last

theorem dropBlanks_append {before core : List Char}
    (blank : ∀ character ∈ before, isBlank character = true)
    (first : ∀ character, core.head? = some character → isBlank character = false) :
    dropBlanks (before ++ core) = core := by
  rw [dropBlanks, List.dropWhile_append_of_pos blank]
  cases core with
  | nil => rfl
  | cons head tail =>
      have visible : isBlank head = false := first head rfl
      rw [List.dropWhile_cons_of_neg]
      rw [visible]
      exact Bool.false_ne_true

theorem strip_of_surrounded {before core after : List Char}
    (blankBefore : ∀ character ∈ before, isBlank character = true)
    (blankAfter : ∀ character ∈ after, isBlank character = true)
    (first : ∀ character, core.head? = some character → isBlank character = false)
    (last : ∀ character, core.getLast? = some character → isBlank character = false) :
    strip (before ++ core ++ after) = core := by
  rw [strip]
  cases core with
  | nil =>
      have blank : ∀ character ∈ before ++ after, isBlank character = true := by
        rw [List.forall_mem_append]
        exact ⟨blankBefore, blankAfter⟩
      have nothing : dropBlanks (before ++ [] ++ after) = [] := by
        rw [List.append_nil, ← List.append_nil (before ++ after)]
        exact dropBlanks_append blank (by simp)
      rw [nothing]
      rfl
  | cons head tail =>
      rw [List.append_assoc, dropBlanks_append blankBefore (by simpa using first head rfl),
        List.reverse_append, dropBlanks_append, List.reverse_reverse]
      · intro character member
        exact blankAfter character (List.mem_reverse.mp member)
      · intro character isFirst
        rw [List.head?_reverse] at isFirst
        exact last character isFirst

theorem strip_eq_rdropWhile (text : List Char) :
    strip text = (dropBlanks text).rdropWhile isBlank := rfl

theorem stripped_strip (text : List Char) : Stripped text (strip text) := by
  constructor
  · refine ⟨text.takeWhile isBlank, (dropBlanks text).rtakeWhile isBlank, ?_, ?_, ?_⟩
    · rw [strip_eq_rdropWhile, List.append_assoc, List.rdropWhile_append_rtakeWhile, dropBlanks,
        List.takeWhile_append_dropWhile]
    · intro character member
      exact List.mem_takeWhile_imp member
    · intro character member
      exact List.mem_rtakeWhile_imp member
  · intro character isFirst
    obtain ⟨rest, whole⟩ := List.rdropWhile_prefix isBlank (dropBlanks text)
    rw [← strip_eq_rdropWhile] at whole
    have first : (dropBlanks text).head? = some character := by
      rw [← whole, List.head?_append, isFirst]
      rfl
    have visible := List.head?_dropWhile_not isBlank text
    rw [← dropBlanks, first] at visible
    exact visible
  · intro character isLast
    have some : (dropBlanks text).rdropWhile isBlank ≠ [] := by
      intro nothing
      rw [strip_eq_rdropWhile, nothing] at isLast
      cases isLast
    rw [strip_eq_rdropWhile, List.getLast?_eq_some_getLast some] at isLast
    have visible := List.rdropWhile_last_not isBlank (dropBlanks text) some
    rw [Option.some.inj isLast] at visible
    exact eq_false_of_ne_true visible

theorem stripped_iff {text core : List Char} : Stripped text core ↔ core = strip text := by
  constructor
  · rintro ⟨⟨before, after, rfl, blankBefore, blankAfter⟩, first, last⟩
    exact (strip_of_surrounded blankBefore blankAfter first last).symm
  · rintro rfl
    exact stripped_strip text

theorem strip_of_visible {text : List Char}
    (visible : ∀ character ∈ text, isBlank character = false) : strip text = text := by
  refine (stripped_iff.mp ⟨⟨[], [], by simp, by simp, by simp⟩, ?_, ?_⟩).symm
  · intro character isFirst
    exact visible character (List.mem_of_head? isFirst)
  · intro character isLast
    exact visible character (List.mem_of_getLast? isLast)

/-! ### The last separator -/

section Cut

variable {separator : Char}

theorem cutLast_eq_none_iff {text : List Char} :
    cutLast separator text = none ↔ separator ∉ text := by
  induction text with
  | nil => simp [cutLast]
  | cons head tail ih =>
      rw [cutLast, List.mem_cons, not_or, ← ih]
      cases cutLast separator tail with
      | some pair => simp
      | none => simp [eq_comm]

theorem cutLast_append {before after : List Char} (free : separator ∉ after) :
    cutLast separator (before ++ separator :: after) = some (before, after) := by
  induction before with
  | nil => rw [List.nil_append, cutLast, cutLast_eq_none_iff.mpr free, if_pos rfl]
  | cons head tail ih => rw [List.cons_append, cutLast, ih]

theorem eq_append_of_cutLast {text before after : List Char}
    (cut : cutLast separator text = some (before, after)) :
    text = before ++ separator :: after ∧ separator ∉ after := by
  induction text generalizing before with
  | nil => cases cut
  | cons head tail ih =>
      rw [cutLast] at cut
      cases found : cutLast separator tail with
      | some pair =>
          rw [found] at cut
          obtain ⟨rfl, rfl⟩ := Prod.mk.inj (Option.some.inj cut)
          obtain ⟨whole, free⟩ := ih found
          exact ⟨congrArg (head :: ·) whole, free⟩
      | none =>
          rw [found] at cut
          by_cases same : head = separator
          · rw [if_pos same] at cut
            obtain ⟨rfl, rfl⟩ := Prod.mk.inj (Option.some.inj cut)
            rw [same]
            exact ⟨rfl, cutLast_eq_none_iff.mp found⟩
          · rw [if_neg same] at cut
            cases cut

theorem cutLast_eq_some_iff {text before after : List Char} :
    cutLast separator text = some (before, after) ↔
      text = before ++ separator :: after ∧ separator ∉ after := by
  constructor
  · exact eq_append_of_cutLast
  · rintro ⟨rfl, free⟩
    exact cutLast_append free

theorem cutLast_map {change : Char → Char}
    (keeps : ∀ character, change character = separator ↔ character = separator)
    (text : List Char) :
    cutLast separator (text.map change) =
      (cutLast separator text).map (Prod.map (List.map change) (List.map change)) := by
  induction text with
  | nil => rfl
  | cons head tail ih =>
      rw [List.map_cons, cutLast, cutLast, ih]
      cases cutLast separator tail with
      | some pair => rfl
      | none =>
          simp only [Option.map_none, keeps]
          split
          · rfl
          · rfl

end Cut

/-! ### Pieces -/

section Pieces

variable {separator : Char}

theorem pieces_eq_splitOn (separator : Char) (text : List Char) :
    pieces separator text = text.splitOn separator := by
  induction text with
  | nil => rfl
  | cons head tail ih =>
      rw [pieces, List.splitOn_cons_eq_if_modifyHead, ih]
      by_cases same : head = separator
      · simp [same]
      · simp only [same, ↓reduceIte, beq_iff_eq]
        cases cut : tail.splitOn separator with
        | nil => exact absurd cut (List.splitOn_ne_nil _ _)
        | cons first others => rfl

theorem pieces_intercalate {parts : List (List Char)} (some : parts ≠ [])
    (free : ∀ part ∈ parts, separator ∉ part) :
    pieces separator ([separator].intercalate parts) = parts := by
  rw [pieces_eq_splitOn, List.splitOn_intercalate separator free some]

theorem intercalate_pieces (separator : Char) (text : List Char) :
    [separator].intercalate (pieces separator text) = text := by
  rw [pieces_eq_splitOn, List.intercalate_splitOn]

theorem pieces_cons_self (tail : List Char) :
    pieces separator (separator :: tail) = [] :: pieces separator tail := by
  rw [pieces, if_pos rfl]

theorem pieces_cons_of_ne {head : Char} (different : head ≠ separator) (tail : List Char) :
    ∃ first others, pieces separator tail = first :: others ∧
      pieces separator (head :: tail) = (head :: first) :: others := by
  rw [pieces, if_neg different]
  cases cut : pieces separator tail with
  | nil =>
      rw [pieces_eq_splitOn] at cut
      exact absurd cut (List.splitOn_ne_nil _ _)
  | cons first others => exact ⟨first, others, rfl, rfl⟩

theorem forall_mem_pieces_iff {allowed : Char → Prop} {text : List Char} :
    (∀ piece ∈ pieces separator text, ∀ character ∈ piece, allowed character) ↔
      ∀ character ∈ text, character ≠ separator → allowed character := by
  induction text with
  | nil => simp [pieces]
  | cons head tail ih =>
      by_cases same : head = separator
      · subst same
        rw [pieces_cons_self, List.forall_mem_cons, List.forall_mem_cons, ih]
        simp
      · obtain ⟨first, others, tailPieces, whole⟩ := pieces_cons_of_ne same tail
        rw [tailPieces, List.forall_mem_cons] at ih
        rw [whole, List.forall_mem_cons, List.forall_mem_cons, List.forall_mem_cons, ← ih,
          and_assoc]
        simp [same]

theorem pieces_map {change : Char → Char}
    (keeps : ∀ character, change character = separator ↔ character = separator)
    (text : List Char) :
    pieces separator (text.map change) = (pieces separator text).map (List.map change) := by
  induction text with
  | nil => rfl
  | cons head tail ih =>
      rw [List.map_cons]
      by_cases same : head = separator
      · subst same
        rw [(keeps head).mpr rfl, pieces_cons_self, pieces_cons_self, ih]
        rfl
      · obtain ⟨first, others, tailPieces, whole⟩ := pieces_cons_of_ne same tail
        rw [whole, pieces, if_neg (mt (keeps head).mp same), ih, tailPieces]
        rfl

theorem pieces_ne_nil_iff_tail {text : List Char} :
    (∀ piece ∈ pieces separator text, piece ≠ []) ↔
      text ≠ [] ∧ text.head? ≠ some separator ∧
        ∀ piece ∈ (pieces separator text).tail, piece ≠ [] := by
  cases text with
  | nil => simp [pieces]
  | cons head tail =>
      by_cases same : head = separator
      · subst same
        simp [pieces_cons_self]
      · obtain ⟨first, others, _, whole⟩ := pieces_cons_of_ne same tail
        simp [whole, same]

/-- A separator ends the piece before it, so an empty piece that is not the first one shows at
the end of the text or between two separators. -/
theorem tail_pieces_ne_nil_iff {text : List Char} :
    (∀ piece ∈ (pieces separator text).tail, piece ≠ []) ↔
      text.getLast? ≠ some separator ∧ ¬ [separator, separator] <:+: text := by
  induction text with
  | nil => simp [pieces]
  | cons head tail ih =>
      rw [List.infix_cons_iff, List.cons_prefix_cons]
      by_cases same : head = separator
      · subst same
        rw [pieces_cons_self, List.tail_cons, pieces_ne_nil_iff_tail, ih]
        cases tail with
        | nil => simp
        | cons next rest =>
            simp only [List.getLast?_cons_cons, List.cons_prefix_cons, List.head?_cons, ne_eq,
              Option.some.injEq, List.nil_prefix, and_true, true_and, not_or, reduceCtorEq,
              not_false_eq_true, eq_comm]
            tauto
      · obtain ⟨first, others, tailPieces, whole⟩ := pieces_cons_of_ne same tail
        rw [tailPieces, List.tail_cons] at ih
        rw [whole, List.tail_cons, ih]
        cases tail with
        | nil => simp [same]
        | cons next rest => simp [Ne.symm same]

/-- What a text is between its separators. Of such parts there is always at least one. -/
structure Parted (separator : Char) (text : List Char) (parts : List (List Char)) : Prop where
  joined : text = [separator].intercalate parts
  nonempty : parts ≠ []
  free : ∀ part ∈ parts, separator ∉ part

theorem parted_pieces (separator : Char) (text : List Char) :
    Parted separator text (pieces separator text) where
  joined := (intercalate_pieces separator text).symm
  nonempty := by
    rw [pieces_eq_splitOn]
    exact List.splitOn_ne_nil _ _
  free := by
    intro part isPart inPart
    have apart : ∀ piece ∈ pieces separator text, ∀ character ∈ piece, character ≠ separator :=
      forall_mem_pieces_iff.mpr fun _ _ different => different
    exact apart part isPart separator inPart rfl

theorem parted_iff {text : List Char} {parts : List (List Char)} :
    Parted separator text parts ↔ parts = pieces separator text := by
  constructor
  · rintro ⟨rfl, nonempty, free⟩
    exact (pieces_intercalate nonempty free).symm
  · rintro rfl
    exact parted_pieces separator text

/-- No piece is empty if separators stand neither at the ends nor next to each other. -/
theorem pieces_ne_nil_iff {text : List Char} :
    (∀ piece ∈ pieces separator text, piece ≠ []) ↔
      text ≠ [] ∧ text.head? ≠ some separator ∧ text.getLast? ≠ some separator ∧
        ¬ [separator, separator] <:+: text := by
  rw [pieces_ne_nil_iff_tail, tail_pieces_ne_nil_iff]

end Pieces

end Enrolment.Text
