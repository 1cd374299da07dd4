/-
Blanks in JSON text. The tokens of a value can be spread out with blanks before, between and
behind them, and the text is still read as that value.
-/

import Enrolment.Proofs.Reading

namespace Enrolment.Json

/-! ### Spread text -/

def Piece.characters : Piece → List Char
  | .plain character => escape character
  | .unit value => ['\\', 'u'] ++ Uuid.hexDigits 4 value

def Token.characters : Token → List Char
  | .openObject => ['{']
  | .closeObject => ['}']
  | .openArray => ['[']
  | .closeArray => [']']
  | .colon => [':']
  | .comma => [',']
  | .null => "null".toList
  | .bool true => "true".toList
  | .bool false => "false".toList
  | .number value => value.text
  | .string pieces => '"' :: pieces.flatMap Piece.characters ++ ['"']

/-- The tokens one after another, with any blanks before, between and behind them. -/
inductive Spread : List Token → List Char → Prop
  | nil : Spread [] []
  | blank {tokens : List Token} {text : List Char} {character : Char}
      (blank : isSpace character = true) (rest : Spread tokens text) :
      Spread tokens (character :: text)
  | token (token : Token) {tokens : List Token} {text : List Char} (rest : Spread tokens text) :
      Spread (token :: tokens) (token.characters ++ text)

theorem characters_pieceOf (character : Char) :
    (pieceOf character).characters = escape character := by
  unfold pieceOf
  split <;> try rfl
  split
  · next control =>
      change ['\\', 'u'] ++ Uuid.hexDigits 4 character.toNat = escape character
      unfold escape
      split <;> simp_all
  · rfl

theorem characters_string (text : String) :
    (Token.string (pieces text)).characters = stringText text := by
  rw [Token.characters, stringText, pieces, List.flatMap_map]
  simp only [characters_pieceOf]

/-! ### Text as written -/

theorem flatMap_writtenElements {elements : List Json}
    (each : ∀ element ∈ elements,
      element.written.flatMap Token.characters = element.characters) :
    (writtenElements elements).flatMap Token.characters = elementsText elements := by
  induction elements with
  | nil => rfl
  | cons element elements ih =>
      obtain ⟨first, others⟩ := List.forall_mem_cons.mp each
      cases elements with
      | nil => exact first
      | cons next elements =>
          rw [writtenElements, List.flatMap_append, first, List.flatMap_cons, ih others]
          rfl

theorem flatMap_writtenMembers {members : List (String × Json)}
    (each : ∀ member ∈ members,
      member.2.written.flatMap Token.characters = member.2.characters) :
    (writtenMembers members).flatMap Token.characters = membersText members := by
  induction members with
  | nil => rfl
  | cons member members ih =>
      obtain ⟨first, others⟩ := List.forall_mem_cons.mp each
      obtain ⟨name, value⟩ := member
      cases members with
      | nil =>
          rw [writtenMembers, List.flatMap_cons, List.flatMap_cons, first, characters_string]
          rfl
      | cons next members =>
          rw [writtenMembers, List.cons_append, List.cons_append, List.flatMap_cons,
            List.flatMap_cons, List.flatMap_append, first, List.flatMap_cons, ih others,
            characters_string]
          simp [membersText, Token.characters]

theorem flatMap_written {depth : Nat} {json : Json} (within : json.Within depth) :
    json.written.flatMap Token.characters = json.characters := by
  induction within with
  | null => rfl
  | bool value => cases value <;> rfl
  | number whole => exact List.flatMap_singleton _ _
  | string text => exact (List.flatMap_singleton _ _).trans (characters_string text)
  | array _ each =>
      rw [written, characters, List.flatMap_append, List.flatMap_cons,
        flatMap_writtenElements each]
      rfl
  | object _ each =>
      rw [written, characters, List.flatMap_append, List.flatMap_cons,
        flatMap_writtenMembers each]
      rfl

theorem Spread.flatMap (tokens : List Token) :
    Spread tokens (tokens.flatMap Token.characters) := by
  induction tokens with
  | nil => exact .nil
  | cons token tokens ih => exact .token token ih

/-- The text that is written has no blanks. -/
theorem spread_characters {depth : Nat} {json : Json} (within : json.Within depth) :
    Spread json.written json.characters := by
  rw [← flatMap_written within]
  exact .flatMap json.written

/-! ### Tokens -/

def Ended (tokens : List Token) : Prop :=
  ∀ token ∈ tokens.head?, token ∈ [.comma, .closeArray, .closeObject]

/-- The tokens can be told apart in a text: their strings are as written, and no number runs
into a token that could carry it on. -/
def Readable : List Token → Prop
  | [] => True
  | .number value :: rest => value.IsWhole ∧ Ended rest ∧ Readable rest
  | .string pieces :: rest => (∃ text, pieces = Json.pieces text) ∧ Readable rest
  | _ :: rest => Readable rest

theorem ended_cons {token : Token} (mark : token ∈ [.comma, .closeArray, .closeObject])
    (tokens : List Token) : Ended (token :: tokens) := by
  rintro first ⟨⟩
  exact mark

theorem readable_elements {elements : List Json}
    (each : ∀ element ∈ elements, ∀ rest, Ended rest → Readable rest →
      Readable (element.written ++ rest))
    {rest : List Token} (readable : Readable rest) :
    Readable (writtenElements elements ++ .closeArray :: rest) := by
  induction elements with
  | nil => exact readable
  | cons element elements ih =>
      obtain ⟨first, others⟩ := List.forall_mem_cons.mp each
      cases elements with
      | nil => exact first _ (ended_cons (by decide) _) readable
      | cons next elements =>
          rw [writtenElements, List.append_assoc]
          exact first _ (ended_cons (by decide) _) (ih others)

theorem readable_members {members : List (String × Json)}
    (each : ∀ member ∈ members, ∀ rest, Ended rest → Readable rest →
      Readable (member.2.written ++ rest))
    {rest : List Token} (readable : Readable rest) :
    Readable (writtenMembers members ++ .closeObject :: rest) := by
  induction members with
  | nil => exact readable
  | cons member members ih =>
      obtain ⟨first, others⟩ := List.forall_mem_cons.mp each
      cases members with
      | nil => exact ⟨⟨member.1, rfl⟩, first _ (ended_cons (by decide) _) readable⟩
      | cons next members =>
          rw [writtenMembers, List.cons_append, List.cons_append, List.cons_append,
            List.cons_append, List.append_assoc]
          exact ⟨⟨member.1, rfl⟩, first _ (ended_cons (by decide) _) (ih others)⟩

theorem readable_written {depth : Nat} {json : Json} (within : json.Within depth) :
    ∀ rest, Ended rest → Readable rest → Readable (json.written ++ rest) := by
  induction within with
  | null | bool => exact fun rest _ readable => readable
  | number whole => exact fun rest ended readable => ⟨whole, ended, readable⟩
  | string text => exact fun rest _ readable => ⟨⟨text, rfl⟩, readable⟩
  | array _ each =>
      intro rest _ readable
      rw [written, List.append_assoc]
      exact readable_elements each readable
  | object _ each =>
      intro rest _ readable
      rw [written, List.append_assoc]
      exact readable_members each readable

/-! ### Reading -/

theorem step_blank {character : Char} (blank : isSpace character = true) :
    Mode.between.step character = some ([], .between) := by
  unfold Mode.step begin?
  exact if_pos blank

theorem delimited_of_spread {tokens : List Token} {text : List Char} (ended : Ended tokens)
    (spread : Spread tokens text) : Delimited text := by
  cases spread with
  | nil => exact delimited_nil
  | blank blank rest =>
      refine delimited_cons ?_ _
      simp only [isSpace, Bool.or_eq_true, beq_iff_eq] at blank
      rcases blank with ((rfl | rfl) | rfl) | rfl <;> decide
  | token token rest =>
      have mark := ended token rfl
      simp only [List.mem_cons, List.not_mem_nil, or_false] at mark
      rcases mark with rfl | rfl | rfl <;> exact delimited_cons (by decide) _

theorem tokensFrom_characters {token : Token} {tokens : List Token} {text : List Char}
    (readable : Readable (token :: tokens)) (spread : Spread tokens text) :
    tokensFrom .between (token.characters ++ text) =
      (tokensFrom .between text).map ([token] ++ ·) := by
  cases token with
  | null => exact (tokensFrom_of_silent rfl _).trans (tokensFrom_word (by decide) _ text)
  | bool value =>
      cases value <;>
        exact (tokensFrom_of_silent rfl _).trans (tokensFrom_word (by decide) _ text)
  | number value =>
      obtain ⟨whole, ended, _⟩ := readable
      exact tokensFrom_text whole (delimited_of_spread ended spread)
  | string pieces =>
      obtain ⟨⟨string, rfl⟩, _⟩ := readable
      rw [characters_string]
      exact tokensFrom_stringText string text
  | _ => exact tokensFrom_of_token rfl text

theorem Readable.tail {token : Token} {tokens : List Token}
    (readable : Readable (token :: tokens)) : Readable tokens := by
  cases token with
  | number value => exact readable.2.2
  | string pieces => exact readable.2
  | _ => exact readable

theorem tokens_of_spread {tokens : List Token} {text : List Char} (spread : Spread tokens text)
    (readable : Readable tokens) : Json.tokens text = some tokens := by
  unfold Json.tokens
  induction spread with
  | nil => rfl
  | blank blank rest ih =>
      rw [tokensFrom_of_silent (step_blank blank)]
      exact ih readable
  | token token rest ih =>
      rw [tokensFrom_characters readable rest, ih readable.tail]
      rfl

/-- A value is read from its text however it is laid out. -/
theorem read?_of_spread {json : Json} (within : json.Within maxDepth) {text : List Char}
    (spread : Spread json.written text) : read? text = some json := by
  have readable : Readable json.written := by
    have alone := readable_written within [] nofun trivial
    rwa [List.append_nil] at alone
  rw [read?, tokens_of_spread spread readable]
  exact assemble_written within _

end Enrolment.Json
