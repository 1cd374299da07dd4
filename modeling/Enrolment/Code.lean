/-
Verification codes and how they are drawn. Entropy comes in blocks of 32 bytes.
A byte below 252, the largest multiple of 36 in a byte, gives one symbol of the
alphabet; larger bytes are passed over, so that no symbol is favoured.
-/

import Enrolment.Error

namespace Enrolment

structure Code where
  text : String
  deriving DecidableEq

namespace Code

def alphabet : List Char :=
  "ABCDEFGHIJKLMNOPQRSTUVWXYZ0123456789".toList

/-- Bytes from here on are passed over. -/
def rejectionBound : Nat := 252

def symbol (byte : UInt8) : Char :=
  alphabet.getD (byte.toNat % 36) 'A'

def isUsable (byte : UInt8) : Bool :=
  byte.toNat < rejectionBound

/-- Bytes that a source of randomness hands out at once. -/
abbrev Block := Vector UInt8 32

def symbols (block : Block) : List Char :=
  (block.toList.filter isUsable).map symbol

/-- The symbols of a code that still lacks `missing` of them, and the blocks it
left unused. What a block holds beyond the code is lost. -/
def draw : Nat → List Block → Option (List Char × List Block)
  | 0, blocks => some ([], blocks)
  | _ + 1, [] => none
  | missing + 1, block :: blocks =>
      let drawn := (symbols block).take (missing + 1)
      (draw (missing + 1 - drawn.length) blocks).map fun (more, rest) => (drawn ++ more, rest)

def entropyExhausted : RegistrationError :=
  .codeGeneration "entropy source failed"

/-- A fresh code with the given number of characters, and the unused blocks. -/
def generate (length : Nat) (blocks : List Block) :
    Except RegistrationError (Code × List Block) :=
  match draw length blocks with
  | some (characters, rest) => .ok ({ text := String.ofList characters }, rest)
  | none => .error entropyExhausted

def isMatch (code : Code) (candidate : String) : Bool :=
  code.text == candidate

/-- The first of the codes drawn one after another that is not the previous one.
A code of positive length takes at least one block, so `tries` can be the number
of blocks. -/
def drawUntilDistinct (length : Nat) (previous : Code) :
    Nat → List Block → Except RegistrationError (Code × List Block)
  | 0, _ => .error entropyExhausted
  | tries + 1, blocks =>
      match generate length blocks with
      | .error error => .error error
      | .ok (code, rest) =>
          if code.isMatch previous.text then drawUntilDistinct length previous tries rest
          else .ok (code, rest)

def generateDistinct (length : Nat) (previous : Code) (blocks : List Block) :
    Except RegistrationError (Code × List Block) :=
  if length = 0 then .error (.codeGeneration "code length must be positive")
  else drawUntilDistinct length previous blocks.length blocks

end Code

end Enrolment
