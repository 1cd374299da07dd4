/-
The tokens of JSON text. Text becomes tokens character by character: a mode
says what the characters so far leave open, and a step gives the tokens that
one more character completes.
-/

import Enrolment.Json.Basic
import Enrolment.Uuid

namespace Enrolment.Json

/-- A part of a string: a character, or a 16-bit unit given by an escape. -/
inductive Piece where
  | plain (character : Char)
  | unit (value : Nat)
  deriving DecidableEq

inductive Token where
  | openObject
  | closeObject
  | openArray
  | closeArray
  | colon
  | comma
  | null
  | bool (value : Bool)
  | number (value : Number)
  | string (pieces : List Piece)
  deriving DecidableEq

/-! ### Strings -/

def isHighUnit (value : Nat) : Bool :=
  0xD800 ≤ value && value < 0xDC00

def isLowUnit (value : Nat) : Bool :=
  0xDC00 ≤ value && value < 0xE000

/-- The text that the pieces spell. A unit that is half of a pair spells
nothing unless the other half stands beside it. -/
def spell : List Piece → Option (List Char)
  | [] => some []
  | .plain character :: rest => (spell rest).map (character :: ·)
  | .unit high :: .unit low :: rest =>
      if isHighUnit high then
        if isLowUnit low then
          (spell rest).map (Char.ofNat ((high - 0xD800) * 1024 + (low - 0xDC00) + 65536) :: ·)
        else none
      else if isLowUnit high then none
      else (spell (.unit low :: rest)).map (Char.ofNat high :: ·)
  | .unit value :: rest =>
      if isHighUnit value || isLowUnit value then none
      else (spell rest).map (Char.ofNat value :: ·)

/-- The character that a letter behind a backslash stands for. -/
def escaped? : Char → Option Char
  | '"' => some '"'
  | '\\' => some '\\'
  | '/' => some '/'
  | 'b' => some '\x08'
  | 'f' => some '\x0c'
  | 'n' => some '\n'
  | 'r' => some '\r'
  | 't' => some '\t'
  | _ => none

/-! ### Numbers -/

/-- How much of a number has been read. -/
inductive NumberScan where
  | sign
  | zero (value : Number)
  | whole (value : Number)
  | point (value : Number)
  | fraction (value : Number) (full : Bool)
  | exponentMark (value : Number)
  | exponentSign (value : Number) (minus : Bool)
  | exponent (value : Number) (minus : Bool) (size : Nat)

namespace NumberScan

def digit? (character : Char) : Option Nat :=
  if '0' ≤ character ∧ character ≤ '9' then some (character.toNat - 48) else none

def firstDigit (negative : Bool) (character : Char) : Option NumberScan := do
  let digit ← digit? character
  let value : Number := { negative, significand := digit, exponent := 0, plain := true }
  some (if digit = 0 then .zero value else .whole value)

/-- Whether one more digit still fits into 64 bits. -/
def fits (value : Number) (digit : Nat) : Bool :=
  value.significand * 10 + digit < Nat.pow 2 64

def push (value : Number) (digit : Nat) : Number :=
  { value with significand := value.significand * 10 + digit }

/-- What may follow the digits of a whole number or a fraction. -/
def mark? (value : Number) : Char → Option NumberScan
  | 'e' | 'E' => some (.exponentMark { value with plain := false })
  | _ => none

/-- Takes in one more character, if it belongs to the number. The significand
holds the digits that fit into 64 bits; a digit that does not fit only moves
the exponent, and so do all digits of its kind after it. -/
def step : NumberScan → Char → Option NumberScan
  | .sign, character => firstDigit true character
  | .zero value, '.' => some (.point { value with plain := false })
  | .zero value, character => mark? value character
  | .whole value, '.' => some (.point { value with plain := false })
  | .whole value, character =>
      match digit? character with
      | some digit =>
          if value.plain && fits value digit then some (.whole (push value digit))
          else some (.whole { value with exponent := value.exponent + 1, plain := false })
      | none => mark? value character
  | .point value, character => do
      let digit ← digit? character
      some <|
        if fits value digit then
          .fraction { push value digit with exponent := value.exponent - 1 } false
        else .fraction value true
  | .fraction value full, character =>
      match digit? character with
      | some digit =>
          if !full && fits value digit then
            some (.fraction { push value digit with exponent := value.exponent - 1 } false)
          else some (.fraction value true)
      | none => mark? value character
  | .exponentMark value, '+' => some (.exponentSign value false)
  | .exponentMark value, '-' => some (.exponentSign value true)
  | .exponentMark value, character => (digit? character).map (.exponent value false)
  | .exponentSign value minus, character => (digit? character).map (.exponent value minus)
  | .exponent value minus size, character =>
      (digit? character).map fun digit => .exponent value minus (size * 10 + digit)

/-- The number, if it can end here. -/
def finish : NumberScan → Option Number
  | .zero value | .whole value | .fraction value _ => some value
  | .exponent value minus size =>
      some { value with exponent := value.exponent + (if minus then -(size : Int) else size) }
  | .sign | .point _ | .exponentMark _ | .exponentSign _ _ => none

end NumberScan

/-! ### Modes -/

inductive Mode where
  | between
  | word (left : List Char) (token : Token)
  | number (scan : NumberScan)
  | string (done : List Piece)
  | escape (done : List Piece)
  | unit (done : List Piece) (value missing : Nat)

def isSpace (character : Char) : Bool :=
  character == ' ' || character == '\t' || character == '\n' || character == '\r'

/-- What a character begins or is, where no token is open. -/
def begin? (character : Char) : Option (List Token × Mode) :=
  if isSpace character then some ([], .between)
  else
    match character with
    | '{' => some ([.openObject], .between)
    | '}' => some ([.closeObject], .between)
    | '[' => some ([.openArray], .between)
    | ']' => some ([.closeArray], .between)
    | ':' => some ([.colon], .between)
    | ',' => some ([.comma], .between)
    | '"' => some ([], .string [])
    | 'n' => some ([], .word ['u', 'l', 'l'] .null)
    | 't' => some ([], .word ['r', 'u', 'e'] (.bool true))
    | 'f' => some ([], .word ['a', 'l', 's', 'e'] (.bool false))
    | '-' => some ([], .number .sign)
    | _ => (NumberScan.firstDigit false character).map fun scan => ([], .number scan)

def Mode.step : Mode → Char → Option (List Token × Mode)
  | .between, character => begin? character
  | .word [] _, _ => none
  | .word (next :: left) token, character =>
      if character = next then
        some (if left = [] then ([token], .between) else ([], .word left token))
      else none
  | .number scan, character =>
      match scan.step character with
      | some scan => some ([], .number scan)
      | none => do
          let value ← scan.finish
          let (tokens, mode) ← begin? character
          some (.number value :: tokens, mode)
  | .string done, '"' => some ([.string done.reverse], .between)
  | .string done, '\\' => some ([], .escape done)
  | .string done, character =>
      if character.toNat < 0x20 then none else some ([], .string (.plain character :: done))
  | .escape done, 'u' => some ([], .unit done 0 4)
  | .escape done, character =>
      (escaped? character).map fun meant => ([], .string (.plain meant :: done))
  | .unit done value missing, character => do
      let value := value * 16 + (← Uuid.hexValue? character)
      some ([], if missing ≤ 1 then .string (.unit value :: done)
        else .unit done value (missing - 1))

/-- The last token, if the text can end here. -/
def Mode.finish : Mode → Option (List Token)
  | .between => some []
  | .number scan => scan.finish.map fun value => [.number value]
  | .word _ _ | .string _ | .escape _ | .unit _ _ _ => none

def tokensFrom : Mode → List Char → Option (List Token)
  | mode, [] => mode.finish
  | mode, character :: text => do
      let (tokens, mode) ← mode.step character
      let rest ← tokensFrom mode text
      some (tokens ++ rest)

def tokens (text : List Char) : Option (List Token) :=
  tokensFrom .between text

end Enrolment.Json
