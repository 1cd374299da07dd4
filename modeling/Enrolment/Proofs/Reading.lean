/-
The tokens of a JSON value make up that value again, however it was to be read, as long as it
does not nest too deep.
-/

import Enrolment.Json.Reader
import Enrolment.Proofs.Lexing

namespace Enrolment.Json

/-! ### Leaves -/

theorem isFinite_of_isWhole {value : Number} (whole : value.IsWhole) : value.isFinite = true := by
  have unscaled : decide ((0 : Int) ≤ 0) = true := rfl
  rw [Number.isFinite, whole.exponent, unscaled, Bool.or_true, Bool.true_or]

namespace Care

variable (care : Care) (stack : List Frame)

theorem name?_pieces (text : String) : care.name? stack (pieces text) = some text := by
  rw [name?, spell_pieces]
  exact congrArg some String.ofList_toList

theorem leaf?_number {value : Number} (whole : value.IsWhole) :
    care.leaf? stack (.number value) = some (.number value) := by
  simp [leaf?, isFinite_of_isWhole whole]

theorem leaf?_string (text : String) :
    care.leaf? stack (.string (pieces text)) = some (.string text) := by
  simp [leaf?, name?_pieces]

theorem mayOpen_of_lt (room : stack.length < maxDepth) : care.mayOpen stack = true := by
  simp [mayOpen, room]

end Care

/-! ### Values -/

/-- Where a value is wanted, its tokens give it. -/
def Given (depth : Nat) (json : Json) : Prop :=
  ∀ (care : Care) (stack : List Frame) (rest : List Token), stack.length + depth ≤ maxDepth →
    assemble care .wanted stack (json.written ++ rest) = assemble care (.found json) stack rest

/-- No value begins with the end of an array. -/
theorem written_ne_close (json : Json) :
    ∃ token tokens, json.written = token :: tokens ∧ token ≠ .closeArray := by
  cases json <;> exact ⟨_, _, rfl, Token.noConfusion⟩

theorem writtenElements_ne_close (element : Json) (elements : List Json) :
    ∃ token tokens, writtenElements (element :: elements) = token :: tokens ∧
      token ≠ .closeArray := by
  obtain ⟨token, tokens, shape, opens⟩ := written_ne_close element
  cases elements with
  | nil => exact ⟨token, tokens, shape, opens⟩
  | cons next elements =>
      refine ⟨token, tokens ++ .comma :: writtenElements (next :: elements), ?_, opens⟩
      rw [writtenElements, shape, List.cons_append]

theorem assemble_elements {depth : Nat} {elements : List Json} (some_elements : elements ≠ [])
    (each : ∀ element ∈ elements, Given depth element) (care : Care) (done : List Json)
    (stack : List Frame) (rest : List Token) (room : stack.length + 1 + depth ≤ maxDepth) :
    assemble care .wanted (.elements done :: stack)
        (writtenElements elements ++ .closeArray :: rest) =
      assemble care (.found (.array (done.reverse ++ elements))) stack rest := by
  induction elements generalizing done with
  | nil => exact absurd rfl some_elements
  | cons element elements ih =>
      have head := each element List.mem_cons_self care (.elements done :: stack)
      cases elements with
      | nil =>
          rw [writtenElements, head _ room, assemble, List.reverse_cons]
      | cons next elements =>
          rw [writtenElements, List.append_assoc, head _ room, List.cons_append, assemble,
            ih (by simp) (fun other inRest => each other (List.mem_cons_of_mem _ inRest)),
            List.reverse_cons, List.append_assoc, List.singleton_append]

def writtenAfterName (value : Json) : List (String × Json) → List Token
  | [] => value.written
  | next :: members => value.written ++ .comma :: writtenMembers (next :: members)

theorem writtenMembers_cons (name : String) (value : Json) (members : List (String × Json)) :
    writtenMembers ((name, value) :: members) =
      .string (pieces name) :: .colon :: writtenAfterName value members := by
  cases members <;> rfl

theorem assemble_members {depth : Nat} {members : List (String × Json)} {name : String}
    {value : Json} (each : ∀ member ∈ (name, value) :: members, Given depth member.2) (care : Care)
    (done : List (String × Json)) (stack : List Frame) (rest : List Token)
    (room : stack.length + 1 + depth ≤ maxDepth) :
    assemble care .wanted (.members done name :: stack)
        (writtenAfterName value members ++ .closeObject :: rest) =
      assemble care (.found (.object (done.reverse ++ (name, value) :: members))) stack rest := by
  induction members generalizing done name value with
  | nil =>
      have head := each (name, value) List.mem_cons_self care (.members done name :: stack)
      rw [writtenAfterName, head _ room, assemble, List.reverse_cons]
  | cons next members ih =>
      have head := each (name, value) List.mem_cons_self care (.members done name :: stack)
      have named := care.name?_pieces stack next.1
      rw [writtenAfterName, List.append_assoc, head _ room, List.cons_append, writtenMembers_cons]
      simp only [List.cons_append, assemble, named]
      rw [ih fun member inTail => each member (List.mem_cons_of_mem _ inTail), List.reverse_cons,
        List.append_assoc, List.singleton_append]

/-! ### Arrays and objects -/

theorem assemble_openArray {care : Care} {stack : List Frame} {token : Token}
    (mayOpen : care.mayOpen stack = true) (opens : token ≠ .closeArray) (rest : List Token) :
    assemble care .wanted stack (.openArray :: token :: rest) =
      assemble care .wanted (.elements [] :: stack) (token :: rest) := by
  cases token with
  | closeArray => exact absurd rfl opens
  | _ => simp [assemble, mayOpen]

theorem given_array {depth : Nat} {elements : List Json}
    (each : ∀ element ∈ elements, Given depth element) : Given (depth + 1) (.array elements) := by
  intro care stack rest room
  have mayOpen := care.mayOpen_of_lt stack (by omega)
  cases elements with
  | nil => simp [written, writtenElements, assemble, mayOpen]
  | cons element elements =>
      have inside := assemble_elements (List.cons_ne_nil element elements) each care [] stack rest
        (by omega)
      -- the token behind the bracket tells the array from an empty one
      obtain ⟨token, tokens, shape, opens⟩ := writtenElements_ne_close element elements
      rw [shape] at inside
      rw [written, List.append_assoc, List.cons_append, shape, List.cons_append,
        assemble_openArray mayOpen opens]
      exact inside

theorem given_object {depth : Nat} {members : List (String × Json)}
    (each : ∀ member ∈ members, Given depth member.2) : Given (depth + 1) (.object members) := by
  intro care stack rest room
  have mayOpen := care.mayOpen_of_lt stack (by omega)
  cases members with
  | nil => simp [written, writtenMembers, assemble, mayOpen]
  | cons member members =>
      have inside := assemble_members each care [] stack rest (by omega)
      have named := care.name?_pieces stack member.1
      rw [written, writtenMembers_cons]
      simp [assemble, mayOpen, named, inside]

theorem given_of_within {depth : Nat} {json : Json} (within : json.Within depth) :
    Given depth json := by
  induction within with
  | null =>
      intro care stack rest _
      rfl
  | bool value =>
      intro care stack rest _
      rfl
  | number whole =>
      intro care stack rest _
      simp [written, assemble, care.leaf?_number stack whole]
  | string text =>
      intro care stack rest _
      simp [written, assemble, care.leaf?_string stack text]
  | array _ each => exact given_array each
  | object _ each => exact given_object each

/-! ### Whole texts -/

theorem assemble_written {json : Json} (within : json.Within maxDepth) (care : Care) :
    assemble care .wanted [] json.written = some json := by
  have given := given_of_within within care [] [] (by simp)
  rwa [List.append_nil] at given

/-- A value that is written is read again. -/
theorem read?_render {json : Json} (within : json.Within maxDepth) :
    read? json.render.toList = some json := by
  rw [read?, tokens_render within]
  exact assemble_written within _

/-- A value that is written is read as a record again, whichever members matter. -/
theorem readRecord?_render {json : Json} (within : json.Within maxDepth) (names : List String) :
    readRecord? names json.render.toList = some json := by
  rw [readRecord?, tokens_render within]
  exact assemble_written within _

end Enrolment.Json
