/-
Universally unique identifiers: 128 bits, written as five groups of lower-case
hexadecimal digits. Readers also accept the digits without hyphens, the five
groups in braces, and the groups behind a URN mark, with any letter in either
case.
-/

namespace Enrolment

structure Uuid where
  value : Nat
  bounded : value < Nat.pow 2 128
  deriving DecidableEq

namespace Uuid

/-- The last `width` hexadecimal digits of a number. -/
def hexDigits : Nat → Nat → List Char
  | 0, _ => []
  | width + 1, number => hexDigits width (number / 16) ++ [Nat.digitChar (number % 16)]

def hexValue? (character : Char) : Option Nat :=
  if '0' ≤ character ∧ character ≤ '9' then some (character.toNat - 48)
  else if 'a' ≤ character ∧ character ≤ 'f' then some (character.toNat - 87)
  else if 'A' ≤ character ∧ character ≤ 'F' then some (character.toNat - 55)
  else none

def ofHex? (digits : List Char) : Option Uuid := do
  let values ← digits.mapM hexValue?
  let value := values.foldl (fun total digit => total * 16 + digit) 0
  if bounded : value < Nat.pow 2 128 then
    if values.length = 32 then some ⟨value, bounded⟩ else none
  else none

/-! ### Text -/

/-- Groups of eight, four, four, four and twelve digits. -/
def grouped (digits : List Char) : List Char :=
  digits.take 8 ++ '-' :: (digits.drop 8).take 4 ++ '-' :: (digits.drop 12).take 4 ++
    '-' :: (digits.drop 16).take 4 ++ '-' :: digits.drop 20

def characters (uuid : Uuid) : List Char :=
  grouped (hexDigits 32 uuid.value)

def text (uuid : Uuid) : String :=
  String.ofList uuid.characters

instance : ToString Uuid := ⟨text⟩

/-- The five groups, with the hyphens in their places. -/
def readGrouped (text : List Char) : Option Uuid :=
  let digits := text.filter (· ≠ '-')
  if text = grouped digits then ofHex? digits else none

/-- Stands before the groups in a URN, with each letter in either case. -/
def urnMark : List Char :=
  "urn:uuid:".toList

def read? (text : List Char) : Option Uuid :=
  if text.length = 32 then ofHex? text
  else if text.length = 38 then
    if text.head? = some '{' ∧ text.getLast? = some '}' then
      readGrouped (text.drop 1).dropLast
    else none
  else if text.length = 45 then
    if (text.take 9).map Char.toLower = urnMark then readGrouped (text.drop 9) else none
  else readGrouped text

def ofString? (text : String) : Option Uuid :=
  read? text.toList

/-! ### Order -/

instance : LE Uuid := ⟨fun left right => left.value ≤ right.value⟩

instance (left right : Uuid) : Decidable (left ≤ right) :=
  inferInstanceAs (Decidable (left.value ≤ right.value))

def nil : Uuid := ⟨0, by decide⟩

end Uuid

/-- Names one registration. Identifiers order by their bits. -/
structure RegistrationId where
  uuid : Uuid
  deriving DecidableEq

namespace RegistrationId

def text (id : RegistrationId) : String :=
  id.uuid.text

instance : ToString RegistrationId := ⟨text⟩

def ofString? (text : String) : Option RegistrationId :=
  (Uuid.ofString? text).map RegistrationId.mk

end RegistrationId

end Enrolment
