/-
Text between quotation marks, as messages show a value that may hold anything.
Quotation mark and backslash carry a backslash, a few controls have letters of
their own, and every other hidden character is written by its code point.
-/

import Enrolment.Text.Hidden

namespace Enrolment.Text

def lowerHex (number : Nat) : List Char :=
  Nat.toDigits 16 number

def quotedCharacter (character : Char) : List Char :=
  if character = '\x00' then ['\\', '0']
  else if character = '\t' then ['\\', 't']
  else if character = '\r' then ['\\', 'r']
  else if character = '\n' then ['\\', 'n']
  else if character = '\\' then ['\\', '\\']
  else if character = '"' then ['\\', '"']
  else if isHidden character then ['\\', 'u', '{'] ++ lowerHex character.toNat ++ ['}']
  else [character]

def quote (text : String) : String :=
  String.ofList ('"' :: text.toList.flatMap quotedCharacter ++ ['"'])

end Enrolment.Text
