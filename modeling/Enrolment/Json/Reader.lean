/-
Values from tokens. A stack holds the arrays and objects that are open. Values
that matter are read with care: their strings have to spell text, their numbers
have to stay finite, and they nest at most 127 deep. A value that nobody will
look at only has to be well formed.
-/

import Enrolment.Json.Token

namespace Enrolment.Json

/-- An array or object that is still open, with what it holds so far, last
first. An object that waits for a value knows the name for it. -/
inductive Frame where
  | elements (done : List Json)
  | members (done : List (String × Json)) (name : String)

inductive Phase where
  | wanted
  | found (value : Json)

def maxDepth : Nat := 127

/-- Decides from the open frames whether a value at that place matters. -/
abbrev Care := List Frame → Bool

namespace Care

def name? (care : Care) (stack : List Frame) (pieces : List Piece) : Option String :=
  match spell pieces with
  | some characters => some (String.ofList characters)
  | none => if care stack then none else some ""

def leaf? (care : Care) (stack : List Frame) : Token → Option Json
  | .null => some .null
  | .bool value => some (.bool value)
  | .number value =>
      if care stack && !value.isFinite then none else some (.number value)
  | .string pieces => (care.name? stack pieces).map .string
  | _ => none

def mayOpen (care : Care) (stack : List Frame) : Bool :=
  !care stack || stack.length < maxDepth

end Care

/-- The value that the tokens make up, when the stack is open and its innermost
frame either wants a value or has just been given one. -/
def assemble (care : Care) : Phase → List Frame → List Token → Option Json
  | .wanted, stack, .openArray :: .closeArray :: rest =>
      if care.mayOpen stack then assemble care (.found (.array [])) stack rest else none
  | .wanted, stack, .openArray :: rest =>
      if care.mayOpen stack then assemble care .wanted (.elements [] :: stack) rest else none
  | .wanted, stack, .openObject :: .closeObject :: rest =>
      if care.mayOpen stack then assemble care (.found (.object [])) stack rest else none
  | .wanted, stack, .openObject :: .string pieces :: .colon :: rest =>
      match care.mayOpen stack, care.name? stack pieces with
      | true, some name => assemble care .wanted (.members [] name :: stack) rest
      | _, _ => none
  | .wanted, stack, token :: rest =>
      match care.leaf? stack token with
      | some value => assemble care (.found value) stack rest
      | none => none
  | .found value, [], [] => some value
  | .found value, .elements done :: stack, .comma :: rest =>
      assemble care .wanted (.elements (value :: done) :: stack) rest
  | .found value, .elements done :: stack, .closeArray :: rest =>
      assemble care (.found (.array (value :: done).reverse)) stack rest
  | .found value, .members done name :: stack, .comma :: .string pieces :: .colon :: rest =>
      match care.name? stack pieces with
      | some next => assemble care .wanted (.members ((name, value) :: done) next :: stack) rest
      | none => none
  | .found value, .members done name :: stack, .closeObject :: rest =>
      assemble care (.found (.object ((name, value) :: done).reverse)) stack rest
  | _, _, _ => none

/-- The value of a text in which everything matters. -/
def read? (text : List Char) : Option Json := do
  assemble (fun _ => true) .wanted [] (← tokens text)

def isMemberOf (names : List String) : Frame → Bool
  | .members _ name => names.contains name
  | .elements _ => true

/-- The value of a text in which, if it is an object, only the members with the
given names matter. -/
def readRecord? (names : List String) (text : List Char) : Option Json := do
  let care : Care := fun stack => (stack.getLast?.map (isMemberOf names)).getD true
  assemble care .wanted [] (← tokens text)

end Enrolment.Json
