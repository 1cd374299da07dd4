/-
JSON values. The members of an object keep their order and may repeat a name;
a number keeps the decimal digits and the exponent that it is written with.
-/

namespace Enrolment

/-- A decimal number. Only a whole number written with digits alone is `plain`;
it counts as an integer, and the number 1.0 does not. -/
structure Json.Number where
  negative : Bool
  significand : Nat
  exponent : Int
  plain : Bool
  deriving DecidableEq, Repr

inductive Json where
  | null
  | bool (value : Bool)
  | number (value : Json.Number)
  | string (text : String)
  | array (elements : List Json)
  | object (members : List (String × Json))
  deriving Inhabited, Repr

namespace Json

/-! ### Numbers -/

namespace Number

/-- The integers that data can hold: 64 bits, signed or unsigned. A zero with a
minus sign is none of them. -/
def integer? (value : Number) : Option Int :=
  if value.plain then
    if value.negative then
      if 0 < value.significand ∧ value.significand ≤ Nat.pow 2 63 then
        some (-value.significand)
      else none
    else if value.significand < Nat.pow 2 64 then some value.significand
    else none
  else none

def ofInt (value : Int) : Number :=
  { negative := value < 0, significand := value.natAbs, exponent := 0, plain := true }

/-- The nearest number with 53 binary digits, the even one of two. -/
def roundTo53Bits (value : Nat) : Nat :=
  let unit := Nat.pow 2 (value.log2 + 1 - 53)
  let quotient := value / unit
  let remainder := value % unit
  if unit < 2 * remainder ∨ (unit = 2 * remainder ∧ quotient % 2 = 1) then
    (quotient + 1) * unit
  else quotient * unit

/-- Whether the number stays finite in binary double precision, when its digits
and its power of ten are rounded on their own before they are multiplied. -/
def isFinite (value : Number) : Bool :=
  value.significand == 0 || value.exponent ≤ 0 ||
    (value.exponent ≤ 308 &&
      roundTo53Bits (roundTo53Bits value.significand *
        roundTo53Bits (Nat.pow 10 value.exponent.toNat)) < Nat.pow 2 1024)

end Number

def ofInt (value : Int) : Json := .number (Number.ofInt value)

def ofNat (value : Nat) : Json := ofInt value

/-! ### Parts of values -/

def text? : Json → Option String
  | .string text => some text
  | _ => none

def integer? : Json → Option Int
  | .number value => value.integer?
  | _ => none

/-- An integer from zero up to, not including, the limit. -/
def below? (limit : Nat) (json : Json) : Option Nat := do
  let value ← json.integer?
  if 0 ≤ value ∧ value < limit then some value.toNat else none

end Json

end Enrolment
