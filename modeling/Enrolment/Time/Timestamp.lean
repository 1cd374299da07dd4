/-
Instants as text. The written form is in UTC with the fewest of 0, 3, 6 or 9
fraction digits that lose nothing. The reader also takes other offsets, blanks
between the parts, short numbers and longer fractions.
-/

import Enrolment.Text.Blank
import Enrolment.Text.Decimal
import Enrolment.Time.Calendar
import Enrolment.Time.Instant

namespace Enrolment.Time

open Text

/-! ### Writing -/

/-- Four digits for the years 0 to 9999; other years carry a sign. -/
def yearText (year : Int) : List Char :=
  if 0 ≤ year ∧ year ≤ 9999 then padded 4 year.toNat
  else (if year < 0 then '-' else '+') :: padded 4 year.natAbs

def dateText (date : Date) : List Char :=
  yearText date.year ++ '-' :: padded 2 date.month ++ '-' :: padded 2 date.day

def fractionText (nano : Nat) : List Char :=
  if nano = 0 then []
  else if nano % 1000000 = 0 then '.' :: padded 3 (nano / 1000000)
  else if nano % 1000 = 0 then '.' :: padded 6 (nano / 1000)
  else '.' :: padded 9 nano

namespace Instant

def date (instant : Instant) : Date :=
  Date.ofDayNumber (instant.second / 86400)

/-- The time of day; a leap second has the number 60. -/
def timeText (instant : Instant) : List Char :=
  let second := instant.secondOfDay.toNat
  let leap := if instant.inLeapSecond then 1 else 0
  padded 2 (second / 3600) ++ ':' :: padded 2 (second / 60 % 60) ++
    ':' :: padded 2 (second % 60 + leap) ++ fractionText (instant.nano % nanosPerSecond)

/-- The form used in data. -/
def timestamp (instant : Instant) : List Char :=
  dateText instant.date ++ 'T' :: instant.timeText ++ ['Z']

/-- The form used in messages. -/
def display (instant : Instant) : String :=
  String.ofList (dateText instant.date ++ ' ' :: instant.timeText) ++ " UTC"

end Instant

/-! ### Reading -/

/-- A mark, with blanks before it skipped. -/
def readMark (mark : Char) (text : List Char) : Option (List Char) :=
  match dropBlanks text with
  | head :: rest => if head = mark then some rest else none
  | [] => none

/-- A number of one or two digits, with blanks before it skipped. -/
def readPart (text : List Char) : Option (Nat × List Char) :=
  readDigits 2 (dropBlanks text)

/-- Up to four digits, or any number of them behind a sign. -/
def readYear (text : List Char) : Option (Int × List Char) :=
  match dropBlanks text with
  | '-' :: digits => (readDigits digits.length digits).map fun (size, rest) => (-size, rest)
  | '+' :: digits => (readDigits digits.length digits).map fun (size, rest) => (size, rest)
  | digits => (readDigits 4 digits).map fun (size, rest) => (size, rest)

def readDate (text : List Char) : Option (Date × List Char) := do
  let (year, text) ← readYear text
  let (month, text) ← readPart (← readMark '-' text)
  let (day, text) ← readPart (← readMark '-' text)
  let date : Date := { year, month, day }
  if date.Exists ∧ -262143 ≤ year ∧ year ≤ 262142 then some (date, text) else none

def readSeparator : List Char → Option (List Char)
  | 'T' :: rest | 't' :: rest | ' ' :: rest => some rest
  | _ => none

/-- Nanoseconds behind a point. Nine digits count, and any more are skipped. -/
def readFraction : List Char → Option (Nat × List Char)
  | '.' :: text =>
      match digitRun 9 text with
      | ([], _) => none
      | (digits, rest) =>
          some (valueOfDigits digits * Nat.pow 10 (9 - digits.length), rest.dropWhile isDigit)
  | text => some (0, text)

/-- Seconds and nanoseconds since midnight. -/
def readTime (text : List Char) : Option ((Nat × Nat) × List Char) := do
  let (hour, text) ← readPart text
  let (minute, text) ← readPart (← readMark ':' text)
  let (second, text) ← readPart (← readMark ':' text)
  let (nano, text) ← readFraction text
  if hour ≤ 23 ∧ minute ≤ 59 ∧ second ≤ 59 then
    some ((hour * 3600 + minute * 60 + second, nano), text)
  else if hour ≤ 23 ∧ minute ≤ 59 ∧ second = 60 then
    some ((hour * 3600 + minute * 60 + 59, nano + nanosPerSecond), text)
  else none

def twoDigits : List Char → Option (Nat × List Char)
  | tens :: ones :: rest =>
      if isDigit tens ∧ isDigit ones then some (valueOfDigits [tens, ones], rest) else none
  | _ => none

/-- Two digits of hours, then two of minutes, with colons and blanks between
them skipped, in seconds. -/
def readOffsetSize (text : List Char) : Option (Nat × List Char) := do
  let (hours, text) ← twoDigits text
  let (minutes, text) ← twoDigits (text.dropWhile fun next => next = ':' || isBlank next)
  if minutes ≤ 59 ∧ hours ≤ 23 then some (hours * 3600 + minutes * 60, text) else none

/-- Seconds east of Greenwich. -/
def readOffset : List Char → Option (Int × List Char)
  | 'Z' :: rest | 'z' :: rest => some (0, rest)
  | '+' :: text => (readOffsetSize text).map fun (size, rest) => ((size : Int), rest)
  | '-' :: text | '\u2212' :: text =>
      (readOffsetSize text).map fun (size, rest) => (-(size : Int), rest)
  | first :: second :: third :: rest =>
      if [first, second, third].map Char.toUpper = ['U', 'T', 'C'] then some (0, rest) else none
  | _ => none

namespace Instant

def read? (text : List Char) : Option Instant := do
  let (date, text) ← readDate text
  let ((second, nano), text) ← readTime (← readSeparator text)
  let (offset, text) ← readOffset (dropBlanks text)
  if dropBlanks text = [] then
    of? (date.dayNumber * 86400 + second - offset) nano
  else none

end Instant

end Enrolment.Time
