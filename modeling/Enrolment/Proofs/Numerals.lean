/-
Numerals read back. The decimal digits of a number, padded or not, and the hexadecimal digits
of an identifier stand for the number that they were written from.
-/

import Enrolment.Text.Decimal
import Enrolment.Uuid
import Mathlib.Algebra.Ring.Nat

namespace Enrolment

/-! ### Decimal digits -/

namespace Text

theorem isDigit_of_mem_decimal {number : Nat} {character : Char}
    (inDigits : character ∈ decimal number) : isDigit character = true := by
  have digit : character.isDigit = true :=
    Nat.isDigit_of_mem_toDigits (by omega) (by omega) inDigits
  rw [← digit]
  rfl

theorem isDigit_of_mem_padded {width number : Nat} {character : Char}
    (inDigits : character ∈ padded width number) : isDigit character = true := by
  rcases List.mem_append.mp inDigits with zero | digit
  · rw [List.eq_of_mem_replicate zero]
    rfl
  · exact isDigit_of_mem_decimal digit

theorem decimal_ne_nil {number : Nat} : decimal number ≠ [] :=
  Nat.toDigits_ne_nil

theorem padded_ne_nil {width number : Nat} : padded width number ≠ [] :=
  List.append_ne_nil_of_right_ne_nil _ decimal_ne_nil

theorem length_padded {width number : Nat} (positive : 0 < width) (small : number < 10 ^ width) :
    (padded width number).length = width := by
  have short : (decimal number).length ≤ width :=
    (Nat.length_toDigits_le_iff (by omega) positive).mpr small
  simp only [padded, List.length_append, List.length_replicate]
  omega

theorem valueOfDigits_decimal (number : Nat) : valueOfDigits (decimal number) = number :=
  Nat.ofDigitChars_toDigits (by omega) (by omega)

theorem valueOfDigits_padded {width number : Nat} :
    valueOfDigits (padded width number) = number := by
  have unpadded := valueOfDigits_decimal number
  rw [valueOfDigits] at unpadded ⊢
  rw [padded, Nat.ofDigitChars_append, Nat.ofDigitChars_replicate_zero, Nat.mul_zero, unpadded]

theorem readNatural_decimal (number : Nat) : readNatural (decimal number) = some number := by
  have digits : (decimal number).all isDigit = true :=
    List.all_eq_true.mpr fun _ => isDigit_of_mem_decimal
  rw [readNatural, if_pos ⟨decimal_ne_nil, digits⟩, valueOfDigits_decimal]

def EndsDigits (text : List Char) : Prop :=
  ∀ character ∈ text.head?, isDigit character = false

theorem digitRun_of_ends (limit : Nat) {rest : List Char} (ends : EndsDigits rest) :
    digitRun limit rest = ([], rest) := by
  cases limit with
  | zero => rfl
  | succ limit =>
      cases rest with
      | nil => rfl
      | cons head tail => simp [digitRun, ends head rfl]

theorem digitRun_append {limit : Nat} {digits rest : List Char}
    (allDigits : ∀ character ∈ digits, isDigit character = true)
    (within : digits.length ≤ limit) (stop : digits.length = limit ∨ EndsDigits rest) :
    digitRun limit (digits ++ rest) = (digits, rest) := by
  induction digits generalizing limit with
  | nil =>
      rcases stop with rfl | ends
      · rfl
      · exact digitRun_of_ends limit ends
  | cons digit digits ih =>
      cases limit with
      | zero => exact absurd within (Nat.not_succ_le_zero _)
      | succ limit =>
          have tail := ih (fun character inTail => allDigits character (.tail _ inTail))
            (Nat.le_of_succ_le_succ within) (stop.imp_left Nat.succ.inj)
          simp only [List.cons_append, digitRun, allDigits digit (.head _), if_true, tail]

theorem readDigits_append {limit : Nat} {digits rest : List Char} (someDigits : digits ≠ [])
    (allDigits : ∀ character ∈ digits, isDigit character = true)
    (within : digits.length ≤ limit) (stop : digits.length = limit ∨ EndsDigits rest) :
    readDigits limit (digits ++ rest) = some (valueOfDigits digits, rest) := by
  cases digits with
  | nil => exact absurd rfl someDigits
  | cons digit digits =>
      simp only [readDigits, digitRun_append allDigits within stop]

/-- Digits that fill the width are read, whatever follows them. -/
theorem readDigits_padded {width number : Nat} (positive : 0 < width)
    (small : number < 10 ^ width) (rest : List Char) :
    readDigits width (padded width number ++ rest) = some (number, rest) := by
  have fills := length_padded positive small
  rw [readDigits_append padded_ne_nil (fun _ => isDigit_of_mem_padded) (Nat.le_of_eq fills)
    (.inl fills), valueOfDigits_padded]

/-- Digits that outgrow the width are read where no other digit follows them. -/
theorem readDigits_padded_of_ends {width number limit : Nat} {rest : List Char}
    (within : (padded width number).length ≤ limit) (ends : EndsDigits rest) :
    readDigits limit (padded width number ++ rest) = some (number, rest) := by
  rw [readDigits_append padded_ne_nil (fun _ => isDigit_of_mem_padded) within (.inr ends),
    valueOfDigits_padded]

end Text

/-! ### Hexadecimal digits -/

namespace Uuid

theorem hexValue?_digitChar {digit : Nat} (small : digit < 16) :
    hexValue? (Nat.digitChar digit) = some digit := by
  decide +revert

theorem digitChar_ne_hyphen {digit : Nat} (small : digit < 16) : Nat.digitChar digit ≠ '-' := by
  decide +revert

theorem length_hexDigits (width number : Nat) : (hexDigits width number).length = width := by
  induction width generalizing number with
  | zero => rfl
  | succ width ih =>
      simp only [hexDigits, List.length_append, ih, List.length_singleton]

theorem exists_digit_of_mem_hexDigits {width number : Nat} {character : Char}
    (inDigits : character ∈ hexDigits width number) :
    ∃ digit < 16, character = Nat.digitChar digit := by
  induction width generalizing number with
  | zero => cases inDigits
  | succ width ih =>
      rcases List.mem_append.mp inDigits with inFront | last
      · exact ih inFront
      · exact ⟨number % 16, Nat.mod_lt number (by decide), List.eq_of_mem_singleton last⟩

theorem ne_hyphen_of_mem_hexDigits {width number : Nat} {character : Char}
    (inDigits : character ∈ hexDigits width number) : character ≠ '-' := by
  obtain ⟨digit, small, rfl⟩ := exists_digit_of_mem_hexDigits inDigits
  exact digitChar_ne_hyphen small

/-- The digits have values, and the values make up as much of the number as the width holds. -/
theorem hexValues_hexDigits (width number : Nat) :
    ∃ values : List Nat, (hexDigits width number).mapM hexValue? = some values ∧
      values.length = width ∧
      values.foldl (fun total digit => total * 16 + digit) 0 = number % 16 ^ width := by
  induction width generalizing number with
  | zero => exact ⟨[], rfl, rfl, (Nat.mod_one number).symm⟩
  | succ width ih =>
      obtain ⟨values, read, length, total⟩ := ih (number / 16)
      have last : hexValue? (Nat.digitChar (number % 16)) = some (number % 16) :=
        hexValue?_digitChar (Nat.mod_lt number (by omega))
      refine ⟨values ++ [number % 16], ?_, ?_, ?_⟩
      · simp [hexDigits, List.mapM_append, read, last]
      · simp [length]
      · rw [List.foldl_append, total, Nat.pow_succ', Nat.mod_mul]
        simp only [List.foldl_cons, List.foldl_nil]
        omega

theorem ofHex?_hexDigits (uuid : Uuid) : ofHex? (hexDigits 32 uuid.value) = some uuid := by
  obtain ⟨values, read, length, total⟩ := hexValues_hexDigits 32 uuid.value
  have whole : values.foldl (fun total digit => total * 16 + digit) 0 = uuid.value := by
    rw [total]
    exact Nat.mod_eq_of_lt uuid.bounded
  simp [ofHex?, read, whole, uuid.bounded, length]

theorem length_characters (uuid : Uuid) : uuid.characters.length = 36 := by
  simp [characters, grouped, length_hexDigits]

theorem grouped_parts (digits : List Char) :
    digits.take 8 ++ ((digits.drop 8).take 4 ++ ((digits.drop 12).take 4 ++
      ((digits.drop 16).take 4 ++ digits.drop 20))) = digits := by
  have join (start : Nat) :
      (digits.drop start).take 4 ++ digits.drop (start + 4) = digits.drop start := by
    rw [← List.drop_drop, List.take_append_drop]
  rw [join 16, join 12, join 8, List.take_append_drop]

theorem mem_grouped {digits : List Char} {character : Char}
    (member : character ∈ grouped digits) : character ∈ digits ∨ character = '-' := by
  simp only [grouped, List.mem_append, List.mem_cons] at member
  have front (count : Nat) {part : List Char} (inPart : character ∈ part.take count) :
      character ∈ part := List.mem_of_mem_take inPart
  have back (count : Nat) (inPart : character ∈ digits.drop count) : character ∈ digits :=
    List.mem_of_mem_drop inPart
  rcases member with (((first | hyphen | second) | hyphen | third) | hyphen | fourth) | hyphen | last
  · exact .inl (front 8 first)
  · exact .inr hyphen
  · exact .inl (back 8 (front 4 second))
  · exact .inr hyphen
  · exact .inl (back 12 (front 4 third))
  · exact .inr hyphen
  · exact .inl (back 16 (front 4 fourth))
  · exact .inr hyphen
  · exact .inl (back 20 last)

/-- Without its hyphens the text is the digits again. -/
theorem filter_grouped {digits : List Char} (noHyphen : ∀ digit ∈ digits, digit ≠ '-') :
    (grouped digits).filter (· ≠ '-') = digits := by
  have kept {part : List Char} (inDigits : part.Sublist digits) : part.filter (· ≠ '-') = part :=
    List.filter_eq_self.mpr fun digit inPart =>
      decide_eq_true (noHyphen digit (inDigits.subset inPart))
  have inner (start : Nat) : ((digits.drop start).take 4).filter (· ≠ '-') =
      (digits.drop start).take 4 :=
    kept ((List.take_sublist _ _).trans (List.drop_sublist _ _))
  have first := kept (List.take_sublist 8 digits)
  have last := kept (List.drop_sublist 20 digits)
  have hyphen (rest : List Char) : ('-' :: rest).filter (· ≠ '-') = rest.filter (· ≠ '-') := rfl
  simp only [grouped, List.append_assoc, List.cons_append, List.filter_append, hyphen, first,
    inner, last, grouped_parts]

theorem read?_characters (uuid : Uuid) : read? uuid.characters = some uuid := by
  have filtered : (grouped (hexDigits 32 uuid.value)).filter (· ≠ '-') = hexDigits 32 uuid.value :=
    filter_grouped fun _ => ne_hyphen_of_mem_hexDigits
  simp only [read?, length_characters]
  simp only [readGrouped, characters, filtered, ofHex?_hexDigits]
  rfl

theorem ofString?_text (uuid : Uuid) : ofString? uuid.text = some uuid := by
  rw [ofString?, text, String.toList_ofList, read?_characters]

end Uuid

end Enrolment
