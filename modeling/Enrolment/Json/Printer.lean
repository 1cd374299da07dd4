/-
The text of JSON values, without blanks. Only quotation marks, backslashes and
the control characters below the space are escaped.
-/

import Enrolment.Json.Basic
import Enrolment.Text.Decimal
import Enrolment.Uuid

namespace Enrolment.Json

open Text

def escape (character : Char) : List Char :=
  match character with
  | '"' => ['\\', '"']
  | '\\' => ['\\', '\\']
  | '\x08' => ['\\', 'b']
  | '\x0c' => ['\\', 'f']
  | '\n' => ['\\', 'n']
  | '\r' => ['\\', 'r']
  | '\t' => ['\\', 't']
  | _ =>
      if character.toNat < 0x20 then ['\\', 'u'] ++ Uuid.hexDigits 4 character.toNat
      else [character]

def stringText (text : String) : List Char :=
  '"' :: text.toList.flatMap escape ++ ['"']

def Number.text (value : Number) : List Char :=
  (if value.negative then ['-'] else []) ++ decimal value.significand ++
    (if value.plain then [] else 'e' :: signedDecimal value.exponent)

mutual

def characters : Json → List Char
  | .null => "null".toList
  | .bool true => "true".toList
  | .bool false => "false".toList
  | .number value => value.text
  | .string text => stringText text
  | .array elements => '[' :: elementsText elements ++ [']']
  | .object members => '{' :: membersText members ++ ['}']

def elementsText : List Json → List Char
  | [] => []
  | [element] => element.characters
  | element :: rest => element.characters ++ ',' :: elementsText rest

def membersText : List (String × Json) → List Char
  | [] => []
  | [(name, value)] => stringText name ++ ':' :: value.characters
  | (name, value) :: rest =>
      stringText name ++ ':' :: value.characters ++ ',' :: membersText rest

end

def render (json : Json) : String :=
  String.ofList json.characters

end Enrolment.Json
