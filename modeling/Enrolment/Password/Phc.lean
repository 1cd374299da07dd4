/-
Password hash strings: fields behind dollar signs, which name the algorithm, its
version and parameters, the salt and the hash. All fields but the first may be
missing, from the right; version and parameters may also be missing on their own.
-/

import Enrolment.Text.Base64
import Enrolment.Text.Decimal
import Enrolment.Text.Split

namespace Enrolment

open Text

structure Phc where
  algorithm : List Char
  version : Option Nat
  parameters : List (List Char × List Char)
  salt : Option (List Char)
  hash : Option (List UInt8)
  deriving DecidableEq

namespace Phc

/-! ### Parts of fields -/

def isNameCharacter (character : Char) : Bool :=
  ('a' ≤ character && character ≤ 'z') || isDigit character || character == '-'

def isName (characters : List Char) : Bool :=
  1 ≤ characters.length && characters.length ≤ 32 && characters.all isNameCharacter

def isValueCharacter (character : Char) : Bool :=
  ('a' ≤ character && character ≤ 'z') || ('A' ≤ character && character ≤ 'Z') ||
    isDigit character || ['/', '+', '.', '-'].contains character

def isValue (characters : List Char) : Bool :=
  characters.length ≤ 64 && characters.all isValueCharacter

/-- A number below 2^32 without leading zeros. -/
def number? (characters : List Char) : Option Nat := do
  let value ← readNatural characters
  if decimal value = characters ∧ value < Nat.pow 2 32 then some value else none

/-! ### Fields -/

/-- A field that starts with the version mark holds the version, unless a comma
shows that it holds parameters. -/
def takeVersion : List (List Char) → Option (Option Nat × List (List Char))
  | ('v' :: '=' :: value) :: fields =>
      if value.contains ',' then some (none, ('v' :: '=' :: value) :: fields)
      else do some (some (← number? value), fields)
  | fields => some (none, fields)

def parameter? (text : List Char) : Option (List Char × List Char) :=
  match pieces '=' text with
  | [name, value] => if isName name && isValue value then some (name, value) else none
  | _ => none

/-- Parameters are at most 127 characters of names with values. -/
def takeParameters :
    List (List Char) → Option (List (List Char × List Char) × List (List Char))
  | field :: fields =>
      if field.contains '=' then
        if field.length ≤ 127 then do
          some (← (pieces ',' field).mapM parameter?, fields)
        else none
      else some ([], field :: fields)
  | [] => some ([], [])

def takeSalt : List (List Char) → Option (Option (List Char) × List (List Char))
  | field :: fields =>
      if 4 ≤ field.length ∧ isValue field then some (some field, fields) else none
  | [] => some (none, [])

/-- The hash is ten to 64 bytes. -/
def takeHash : List (List Char) → Option (Option (List UInt8) × List (List Char))
  | field :: fields => do
      let bytes ← Base64.decode field
      if 10 ≤ bytes.length ∧ bytes.length ≤ 64 then some (some bytes, fields) else none
  | [] => some (none, [])

def parse (text : List Char) : Option Phc :=
  match pieces '$' text with
  | [] :: algorithm :: fields => do
      if isName algorithm then
        let (version, fields) ← takeVersion fields
        let (parameters, fields) ← takeParameters fields
        let (salt, fields) ← takeSalt fields
        let (hash, fields) ← takeHash fields
        if fields = [] then some { algorithm, version, parameters, salt, hash } else none
      else none
  | _ => none

/-! ### Writing -/

def parametersText (parameters : List (List Char × List Char)) : List Char :=
  List.intercalate [','] (parameters.map fun (name, value) => name ++ '=' :: value)

def text (phc : Phc) : List Char :=
  '$' :: phc.algorithm ++
    (phc.version.map fun version => "$v=".toList ++ decimal version).getD [] ++
    (if phc.parameters = [] then [] else '$' :: parametersText phc.parameters) ++
    (phc.salt.map fun salt => '$' :: salt).getD [] ++
    (phc.hash.map fun hash => '$' :: Base64.encode hash).getD []

end Phc

end Enrolment
