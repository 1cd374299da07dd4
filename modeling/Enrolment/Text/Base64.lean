/-
The standard base-64 alphabet without padding. Encoding writes the fewest
characters that hold the bytes; decoding refuses any other spelling of them,
so the bits left over in the last character have to be zero.
-/

namespace Enrolment.Text.Base64

def alphabet : List Char :=
  "ABCDEFGHIJKLMNOPQRSTUVWXYZabcdefghijklmnopqrstuvwxyz0123456789+/".toList

def symbol (value : Nat) : Char :=
  alphabet.getD value 'A'

def value? (character : Char) : Option Nat :=
  let point := character.toNat
  if 'A' ≤ character ∧ character ≤ 'Z' then some (point - 65)
  else if 'a' ≤ character ∧ character ≤ 'z' then some (point - 71)
  else if '0' ≤ character ∧ character ≤ '9' then some (point + 4)
  else if character = '+' then some 62
  else if character = '/' then some 63
  else none

def encode : List UInt8 → List Char
  | a :: b :: c :: rest =>
      let word := a.toNat * 65536 + b.toNat * 256 + c.toNat
      symbol (word / 262144) :: symbol (word / 4096 % 64) :: symbol (word / 64 % 64) ::
        symbol (word % 64) :: encode rest
  | [a, b] =>
      let word := a.toNat * 1024 + b.toNat * 4
      [symbol (word / 4096), symbol (word / 64 % 64), symbol (word % 64)]
  | [a] => [symbol (a.toNat / 4), symbol (a.toNat % 4 * 16)]
  | [] => []

private def byte (number : Nat) : UInt8 := UInt8.ofNat number

/-- The bytes of a list of six-bit values. -/
def join : List Nat → Option (List UInt8)
  | a :: b :: c :: d :: rest => do
      let word := a * 262144 + b * 4096 + c * 64 + d
      let tail ← join rest
      some (byte (word / 65536) :: byte (word / 256 % 256) :: byte (word % 256) :: tail)
  | [a, b, c] =>
      if c % 4 = 0 then
        let word := (a * 4096 + b * 64 + c) / 4
        some [byte (word / 256), byte (word % 256)]
      else none
  | [a, b] => if b % 16 = 0 then some [byte ((a * 64 + b) / 16)] else none
  | [_] => none
  | [] => some []

def decode (text : List Char) : Option (List UInt8) := do
  join (← text.mapM value?)

end Enrolment.Text.Base64
