/-
Email addresses. An address is a local part of dot-separated words, an at sign,
and a domain of dot-separated labels; it is kept in lower case, so that two
spellings of one mailbox are one lookup key.
-/

import Enrolment.Text.Blank
import Enrolment.Text.Split

namespace Enrolment

open Text

structure Email where
  address : String
  deriving DecidableEq

inductive EmailError where
  | empty
  | tooLong (bytes : Nat)
  | localPartTooLong (bytes : Nat)
  | invalidFormat (address : String)
  deriving DecidableEq

def EmailError.title : EmailError → String
  | .empty => "Empty"
  | .tooLong _ => "TooLong"
  | .localPartTooLong _ => "LocalPartTooLong"
  | .invalidFormat _ => "InvalidFormat"

def EmailError.message : EmailError → String
  | .empty => "Email is empty"
  | .tooLong bytes => s!"Email exceeds maximum length of 254 characters: {bytes}"
  | .localPartTooLong bytes => s!"Local part exceeds maximum length of 64 characters: {bytes}"
  | .invalidFormat address => s!"Email has an invalid format: {address}"

namespace Email

/-! ### Grammar -/

def isLetterOrDigit (character : Char) : Bool :=
  ('a' ≤ character && character ≤ 'z') || ('A' ≤ character && character ≤ 'Z') ||
    ('0' ≤ character && character ≤ '9')

/-- The characters, other than letters and digits, of a word in a local part. -/
def wordMarks : List Char :=
  "!#$%&'*+/=?^_`\x7b|\x7d~-".toList

def isWordCharacter (character : Char) : Bool :=
  isLetterOrDigit character || wordMarks.contains character

def isWord (characters : List Char) : Bool :=
  characters ≠ [] && characters.all isWordCharacter

def isLocalPart (characters : List Char) : Bool :=
  (pieces '.' characters).all isWord

/-- One to 63 letters, digits and hyphens, with no hyphen at either end. -/
def isLabel (characters : List Char) : Bool :=
  1 ≤ characters.length && characters.length ≤ 63 &&
    characters.all (fun character => isLetterOrDigit character || character == '-') &&
    characters.head? != some '-' && characters.getLast? != some '-'

def isDomain (characters : List Char) : Bool :=
  (pieces '.' characters).all isLabel

/-! ### Addresses -/

def maxBytes : Nat := 254

def maxLocalBytes : Nat := 64

def byteLength (characters : List Char) : Nat :=
  (String.ofList characters).utf8ByteSize

/-- The address that a text gives, with surrounding blanks dropped and capital
letters made small. Lengths are in bytes of UTF-8. -/
def parse (text : String) : Except EmailError Email :=
  let characters := strip text.toList
  let address := String.ofList characters
  if characters = [] then .error .empty
  else if maxBytes < byteLength characters then .error (.tooLong (byteLength characters))
  else
    match cutLast '@' characters with
    | none => .error (.invalidFormat address)
    | some (mailbox, domain) =>
        if maxLocalBytes < byteLength mailbox then
          .error (.localPartTooLong (byteLength mailbox))
        else if isLocalPart mailbox && isDomain domain then
          .ok { address := String.ofList (characters.map Char.toLower) }
        else .error (.invalidFormat address)

/-- What follows the last at sign, nothing if there is none. -/
def domain (email : Email) : String :=
  match cutLast '@' email.address.toList with
  | some (_, domain) => String.ofList domain
  | none => ""

instance : ToString Email := ⟨address⟩

end Email

end Enrolment
