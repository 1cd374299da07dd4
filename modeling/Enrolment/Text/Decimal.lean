/-
Decimal numbers in text: written without leading zeros or padded to a width,
and read from the front of a text.
-/

namespace Enrolment.Text

def isDigit (character : Char) : Bool :=
  '0' ≤ character && character ≤ '9'

def decimal (number : Nat) : List Char :=
  Nat.toDigits 10 number

/-- The digits of a number, with zeros in front up to the width. -/
def padded (width number : Nat) : List Char :=
  let digits := decimal number
  List.replicate (width - digits.length) '0' ++ digits

def signedDecimal (number : Int) : List Char :=
  if number < 0 then '-' :: decimal number.natAbs else decimal number.natAbs

/-- The number that a run of digits stands for. -/
def valueOfDigits (digits : List Char) : Nat :=
  Nat.ofDigitChars 10 digits 0

/-- The run of at most `limit` digits at the front, and what follows it. -/
def digitRun : Nat → List Char → List Char × List Char
  | 0, text => ([], text)
  | _ + 1, [] => ([], [])
  | limit + 1, head :: tail =>
      if isDigit head then
        let (digits, rest) := digitRun limit tail
        (head :: digits, rest)
      else ([], head :: tail)

/-- A number of one to `limit` digits at the front of the text. -/
def readDigits (limit : Nat) (text : List Char) : Option (Nat × List Char) :=
  match digitRun limit text with
  | ([], _) => none
  | (digits, rest) => some (valueOfDigits digits, rest)

/-- A text that is digits from end to end, at least one. -/
def readNatural (text : List Char) : Option Nat :=
  if text ≠ [] ∧ text.all isDigit then some (valueOfDigits text) else none

/-- Digits behind an optional sign; the minus sign only where it is allowed. -/
def readInteger (allowMinus : Bool) : List Char → Option Int
  | '+' :: digits => (readNatural digits).map Int.ofNat
  | '-' :: digits =>
      if allowMinus then (readNatural digits).map (fun size => -Int.ofNat size) else none
  | digits => (readNatural digits).map Int.ofNat

end Enrolment.Text
