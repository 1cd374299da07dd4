/-
Timestamps read back: the text of an instant is read as that instant, whatever its year, the
fraction of its second or a leap second.
-/

import Enrolment.Proofs.Calendar
import Enrolment.Proofs.Numerals
import Enrolment.Time.Timestamp

namespace Enrolment.Time

open Text

/-! ### Parts -/

theorem isBlank_of_isDigit {character : Char} (digit : isDigit character = true) :
    isBlank character = false := by
  simp only [isDigit, Bool.and_eq_true, decide_eq_true_eq, Char.le_def, UInt32.le_iff_toNat_le]
    at digit
  have low : 48 ≤ character.toNat := digit.1
  have high : character.toNat ≤ 57 := digit.2
  simp only [isBlank, Bool.or_eq_false_iff, Bool.and_eq_false_iff, decide_eq_false_iff_not,
    beq_eq_false_iff_ne]
  omega

/-- Digits begin with a digit. -/
theorem exists_digit_padded (width number : Nat) :
    ∃ head tail, isDigit head = true ∧ padded width number = head :: tail := by
  have nonempty : padded width number ≠ [] := padded_ne_nil
  obtain ⟨head, tail, shape⟩ := List.exists_cons_of_ne_nil nonempty
  have first : head ∈ padded width number := by
    rw [shape]
    exact List.mem_cons_self
  exact ⟨head, tail, isDigit_of_mem_padded first, shape⟩

theorem dropBlanks_padded (width number : Nat) (rest : List Char) :
    dropBlanks (padded width number ++ rest) = padded width number ++ rest := by
  obtain ⟨head, tail, digit, shape⟩ := exists_digit_padded width number
  rw [shape, List.cons_append, dropBlanks, List.dropWhile_cons_of_neg]
  simp [isBlank_of_isDigit digit]

theorem readPart_padded {number : Nat} (small : number < 100) (rest : List Char) :
    readPart (padded 2 number ++ rest) = some (number, rest) := by
  rw [readPart, dropBlanks_padded, readDigits_padded (by omega) small]

theorem readMark_hyphen (rest : List Char) : readMark '-' ('-' :: rest) = some rest := rfl

theorem readMark_colon (rest : List Char) : readMark ':' (':' :: rest) = some rest := rfl

theorem endsDigits_hyphen (rest : List Char) : EndsDigits ('-' :: rest) := by
  rintro character ⟨⟩
  rfl

theorem endsDigits_zulu (rest : List Char) : EndsDigits ('Z' :: rest) := by
  rintro character ⟨⟩
  rfl

/-! ### Dates -/

theorem readYear_of_digit {head : Char} (digit : isDigit head = true) (tail : List Char) :
    readYear (head :: tail) =
      (readDigits 4 (head :: tail)).map fun (size, rest) => ((size : Int), rest) := by
  have kept : dropBlanks (head :: tail) = head :: tail := by
    simp [dropBlanks, isBlank_of_isDigit digit]
  rw [readYear, kept]
  split
  · next minus => cases minus; cases digit
  · next plus => cases plus; cases digit
  · rfl

theorem readYear_minus (digits : List Char) : readYear ('-' :: digits) =
    (readDigits digits.length digits).map fun (size, rest) => (-(size : Int), rest) := rfl

theorem readYear_plus (digits : List Char) : readYear ('+' :: digits) =
    (readDigits digits.length digits).map fun (size, rest) => ((size : Int), rest) := rfl

theorem readYear_yearText (year : Int) (rest : List Char) :
    readYear (yearText year ++ '-' :: rest) = some (year, '-' :: rest) := by
  -- behind a sign the digits may be more than four, and the hyphen ends them
  have size : readDigits (padded 4 year.natAbs ++ '-' :: rest).length
      (padded 4 year.natAbs ++ '-' :: rest) = some (year.natAbs, '-' :: rest) :=
    readDigits_padded_of_ends (by simp) (endsDigits_hyphen rest)
  by_cases unsigned : 0 ≤ year ∧ year ≤ 9999
  · have same : (year.toNat : Int) = year := by omega
    have read := readDigits_padded (by omega) (show year.toNat < 10 ^ 4 by omega) ('-' :: rest)
    obtain ⟨head, tail, digit, shape⟩ := exists_digit_padded 4 year.toNat
    rw [shape, List.cons_append] at read
    rw [yearText, if_pos unsigned, shape, List.cons_append, readYear_of_digit digit, read]
    simp only [Option.map_some, same]
  · rw [yearText, if_neg unsigned, List.cons_append]
    by_cases negative : year < 0
    · have same : -(year.natAbs : Int) = year := by omega
      rw [if_pos negative, readYear_minus, size]
      simp only [Option.map_some, same]
    · have same : (year.natAbs : Int) = year := by omega
      rw [if_neg negative, readYear_plus, size]
      simp only [Option.map_some, same]

theorem readDate_dateText {date : Date} (inCalendar : date.Exists)
    (inRange : -262143 ≤ date.year ∧ date.year ≤ 262142) (rest : List Char) :
    readDate (dateText date ++ rest) = some (date, rest) := by
  obtain ⟨fromFirst, toLast, fromOne, days⟩ := inCalendar
  have short := days.trans (Date.daysInMonth_le date.year date.month)
  have month := readPart_padded (show date.month < 100 by omega)
  have day := readPart_padded (show date.day < 100 by omega)
  simp only [dateText, List.append_assoc, List.cons_append, readDate, readYear_yearText,
    readMark_hyphen, month, day, Option.bind_eq_bind, Option.bind_some]
  exact if_pos ⟨⟨fromFirst, toLast, fromOne, days⟩, inRange⟩

/-! ### Times of day -/

theorem readFraction_point {width number : Nat} (missing : Nat) (positive : 0 < width)
    (nine : width + missing = 9) (small : number < 10 ^ width) (rest : List Char) :
    readFraction ('.' :: (padded width number ++ 'Z' :: rest)) =
      some (number * 10 ^ missing, 'Z' :: rest) := by
  have fills := length_padded positive small
  have within : (padded width number).length ≤ 9 := by omega
  have run := digitRun_append (fun _ => isDigit_of_mem_padded) within (.inr (endsDigits_zulu rest))
  have value : valueOfDigits (padded width number) = number := valueOfDigits_padded
  have skipped : ('Z' :: rest).dropWhile isDigit = 'Z' :: rest := rfl
  obtain ⟨head, tail, _, shape⟩ := exists_digit_padded width number
  rw [shape] at run fills value ⊢
  simp only [readFraction, run, value, fills, skipped, show 9 - width = missing by omega]
  rfl

theorem readFraction_fractionText {nano : Nat} (small : nano < nanosPerSecond)
    (rest : List Char) :
    readFraction (fractionText nano ++ 'Z' :: rest) = some (nano, 'Z' :: rest) := by
  unfold nanosPerSecond at small
  unfold fractionText
  split
  · next none => rw [none]; rfl
  · split
    · next milli =>
        have whole : nano / 1000000 * 10 ^ 6 = nano := by omega
        rw [List.cons_append, readFraction_point 6 (by omega) rfl (by omega), whole]
    · split
      · next micro =>
          have whole : nano / 1000 * 10 ^ 3 = nano := by omega
          rw [List.cons_append, readFraction_point 3 (by omega) rfl (by omega), whole]
      · have whole : nano * 10 ^ 0 = nano := by omega
        rw [List.cons_append, readFraction_point 0 (by omega) rfl (by omega), whole]

/-- A second numbered 60 counts as the one before it, a second later. -/
theorem readTime_parts {hour minute second nano : Nat} (hours : hour ≤ 23) (minutes : minute ≤ 59)
    (seconds : second ≤ 60) (small : nano < nanosPerSecond) (rest : List Char) :
    readTime (padded 2 hour ++ ':' :: (padded 2 minute ++ ':' :: (padded 2 second ++
        (fractionText nano ++ 'Z' :: rest)))) =
      some (if second = 60 then (hour * 3600 + minute * 60 + 59, nano + nanosPerSecond)
        else (hour * 3600 + minute * 60 + second, nano), 'Z' :: rest) := by
  have hourRead := readPart_padded (show hour < 100 by omega)
  have minuteRead := readPart_padded (show minute < 100 by omega)
  have secondRead := readPart_padded (show second < 100 by omega)
  simp only [readTime, hourRead, minuteRead, secondRead, readMark_colon,
    readFraction_fractionText small, Option.bind_eq_bind, Option.bind_some]
  by_cases leap : second = 60
  · rw [if_neg (by omega), if_pos ⟨hours, minutes, leap⟩, if_pos leap]
  · rw [if_pos ⟨hours, minutes, by omega⟩, if_neg leap]

namespace Instant

theorem readTime_timeText (instant : Instant) (rest : List Char) :
    readTime (instant.timeText ++ 'Z' :: rest) =
      some ((instant.secondOfDay.toNat, instant.nano), 'Z' :: rest) := by
  obtain ⟨_, _, bound, leapAtEnd⟩ := instant.valid
  have inDay : instant.secondOfDay.toNat < 86400 := by
    unfold secondOfDay
    omega
  have ofMinute : instant.secondOfDay.toNat % 60 = (instant.second % 60).toNat := by
    unfold secondOfDay
    omega
  have nano : instant.nano % nanosPerSecond < nanosPerSecond := Nat.mod_lt _ (by decide)
  have parts (leap : Nat) (one : leap ≤ 1) :=
    readTime_parts (show instant.secondOfDay.toNat / 3600 ≤ 23 by omega)
      (show instant.secondOfDay.toNat / 60 % 60 ≤ 59 by omega)
      (show instant.secondOfDay.toNat % 60 + leap ≤ 60 by omega) nano rest
  simp only [timeText, List.append_assoc, List.cons_append]
  unfold nanosPerSecond at bound leapAtEnd
  cases leap : instant.inLeapSecond with
  | true =>
      have late := of_decide_eq_true leap
      unfold nanosPerSecond at late
      have atEnd : instant.second % 60 = 59 := leapAtEnd late
      rw [if_pos rfl, parts 1 (by omega), if_pos (by omega)]
      unfold nanosPerSecond
      congr 3 <;> omega
  | false =>
      have early := of_decide_eq_false leap
      unfold nanosPerSecond at early
      rw [if_neg Bool.false_ne_true, parts 0 (by omega), if_neg (by omega)]
      unfold nanosPerSecond
      congr 3 <;> omega

/-- The days of the range begin a year and end one. -/
theorem date_inRange (instant : Instant) :
    -262143 ≤ instant.date.year ∧ instant.date.year ≤ 262142 := by
  obtain ⟨fromFirst, toLast, _, _⟩ := instant.valid
  unfold firstSecond at fromFirst
  unfold lastSecond at toLast
  apply Date.year_bounds
  · have first : (Date.newYear (-262143)).dayNumber = -96465292 := by decide
    omega
  · have last : (Date.newYear (262142 + 1)).dayNumber = 95026237 := by decide
    omega

/-- What is written of an instant is read as that instant. -/
theorem read?_timestamp (instant : Instant) : read? instant.timestamp = some instant := by
  have inCalendar : instant.date.Exists := Date.exists_ofDayNumber _
  have date := readDate_dateText inCalendar instant.date_inRange
  have time := instant.readTime_timeText []
  have day : instant.date.dayNumber = instant.second / 86400 := Date.dayNumber_ofDayNumber _
  have separator (rest : List Char) : readSeparator ('T' :: rest) = some rest := rfl
  have offset : readOffset (dropBlanks ['Z']) = some (0, []) := rfl
  have second : instant.second / 86400 * 86400 + instant.secondOfDay.toNat - 0 =
      instant.second := by
    unfold secondOfDay
    omega
  simp only [read?, timestamp, List.append_assoc, List.cons_append, date, separator, time, offset,
    day, second, Option.bind_eq_bind, Option.bind_some]
  exact dif_pos instant.valid

example : (⟨-62167219201, 1500000000, by decide⟩ : Instant).timestamp =
    "-0001-12-31T23:59:60.500Z".toList := by rfl

end Instant

end Enrolment.Time
