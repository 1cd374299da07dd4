/-
The text of a JSON value breaks up into the tokens of that value. Strings do so whatever
characters they hold, and numbers wherever a mark or blank that is no part of them follows.
-/

import Enrolment.Json.Printer
import Enrolment.Json.Token
import Enrolment.Proofs.Numerals
import Mathlib.Tactic.IntervalCases

namespace Enrolment.Json

open Text

/-! ### Steps -/

theorem tokensFrom_of_silent {mode next : Mode} {character : Char}
    (step : mode.step character = some ([], next)) (text : List Char) :
    tokensFrom mode (character :: text) = tokensFrom next text := by
  simp [tokensFrom, step]

theorem tokensFrom_of_token {mode next : Mode} {character : Char} {token : Token}
    (step : mode.step character = some ([token], next)) (text : List Char) :
    tokensFrom mode (character :: text) = (tokensFrom next text).map ([token] ++ ·) := by
  simp [tokensFrom, step, Option.map_eq_bind]

/-! ### Strings -/

def pieceOf (character : Char) : Piece :=
  match character with
  | '\x08' | '\x0c' | '\n' | '\r' | '\t' => .plain character
  | _ => if character.toNat < 0x20 then .unit character.toNat else .plain character

def pieces (text : String) : List Piece :=
  text.toList.map pieceOf

theorem spell_unit {value : Nat} (small : value < 0xD800) (rest : List Piece) :
    spell (.unit value :: rest) = (spell rest).map (Char.ofNat value :: ·) := by
  have notHigh : isHighUnit value = false := by simp [isHighUnit]; omega
  have notLow : isLowUnit value = false := by simp [isLowUnit]; omega
  rcases rest with _ | ⟨_ | _, rest⟩ <;> simp [spell, notHigh, notLow]

theorem spell_pieceOf (character : Char) (rest : List Piece) :
    spell (pieceOf character :: rest) = (spell rest).map (character :: ·) := by
  unfold pieceOf
  split <;> try rfl
  split
  · next control => rw [spell_unit (by omega), Char.ofNat_toNat]
  · rfl

theorem spell_pieces (text : String) : spell (pieces text) = some text.toList := by
  unfold pieces
  induction text.toList with
  | nil => rfl
  | cons character rest ih => rw [List.map_cons, spell_pieceOf, ih, Option.map_some]

theorem tokensFrom_digit {digit : Nat} (small : digit < 16) (done : List Piece)
    (value missing : Nat) (text : List Char) :
    tokensFrom (.unit done value (missing + 2)) (Nat.digitChar digit :: text) =
      tokensFrom (.unit done (value * 16 + digit) (missing + 1)) text :=
  tokensFrom_of_silent (by simp [Mode.step, Uuid.hexValue?_digitChar small]) text

theorem tokensFrom_lastDigit {digit : Nat} (small : digit < 16) (done : List Piece)
    (value : Nat) (text : List Char) :
    tokensFrom (.unit done value 1) (Nat.digitChar digit :: text) =
      tokensFrom (.string (.unit (value * 16 + digit) :: done)) text :=
  tokensFrom_of_silent (by simp [Mode.step, Uuid.hexValue?_digitChar small]) text

theorem tokensFrom_hexDigits {value : Nat} (small : value < 16 ^ 4) (done : List Piece)
    (text : List Char) :
    tokensFrom (.unit done 0 4) (Uuid.hexDigits 4 value ++ text) =
      tokensFrom (.string (.unit value :: done)) text := by
  have digit (number : Nat) : number % 16 < 16 := Nat.mod_lt number (by omega)
  have total : (((0 * 16 + value / 16 / 16 / 16 % 16) * 16 + value / 16 / 16 % 16) * 16 +
      value / 16 % 16) * 16 + value % 16 = value := by omega
  simp only [Uuid.hexDigits, List.nil_append, List.cons_append]
  rw [tokensFrom_digit (digit _) done _ 2, tokensFrom_digit (digit _) done _ 1,
    tokensFrom_digit (digit _) done _ 0, tokensFrom_lastDigit (digit _), total]

theorem tokensFrom_escape (character : Char) (done : List Piece) (text : List Char) :
    tokensFrom (.string done) (escape character ++ text) =
      tokensFrom (.string (pieceOf character :: done)) text := by
  unfold escape
  split
  -- the characters with a letter of their own
  iterate 7
    rw [List.cons_append, tokensFrom_of_silent rfl, List.cons_append, tokensFrom_of_silent rfl]
    rfl
  next =>
    have piece : pieceOf character =
        if character.toNat < 0x20 then .unit character.toNat else .plain character := by
      unfold pieceOf
      split <;> simp_all
    rw [piece]
    split
    · next control =>
        rw [List.append_assoc, List.cons_append, tokensFrom_of_silent rfl, List.cons_append,
          tokensFrom_of_silent rfl, List.nil_append, tokensFrom_hexDigits (by omega)]
    · next printable =>
        have read : (Mode.string done).step character =
            some ([], .string (.plain character :: done)) := by
          simp [Mode.step, printable]
        exact tokensFrom_of_silent read text

theorem tokensFrom_stringText (string : String) (text : List Char) :
    tokensFrom .between (stringText string ++ text) =
      (tokensFrom .between text).map ([.string (pieces string)] ++ ·) := by
  have inside (characters : List Char) (done : List Piece) (rest : List Char) :
      tokensFrom (.string done) (characters.flatMap escape ++ rest) =
        tokensFrom (.string ((characters.map pieceOf).reverse ++ done)) rest := by
    induction characters generalizing done with
    | nil => rfl
    | cons character characters ih =>
        rw [List.flatMap_cons, List.append_assoc, tokensFrom_escape, ih, List.map_cons,
          List.reverse_cons, List.append_assoc, List.singleton_append]
  have closed : (Mode.string ((pieces string).reverse ++ [])).step '"' =
      some ([.string (pieces string)], .between) := by
    simp [Mode.step]
  have opened : Mode.between.step '"' = some ([], .string []) := rfl
  simp only [stringText, List.cons_append, List.append_assoc]
  rw [tokensFrom_of_silent opened, inside]
  exact tokensFrom_of_token closed text

/-! ### Numbers -/

/-- A whole number of at most 64 bits, written with digits alone. -/
structure Number.IsWhole (value : Number) : Prop where
  plain : value.plain = true
  exponent : value.exponent = 0
  bounded : value.significand < 2 ^ 64

theorem isWhole_ofInt {value : Int} (bounded : value.natAbs < 2 ^ 64) :
    (Number.ofInt value).IsWhole :=
  { plain := rfl, exponent := rfl, bounded }

def delimiters : List Char :=
  [',', ']', '}', ' ', '\t', '\n', '\r']

def Delimited (text : List Char) : Prop :=
  ∀ character ∈ text.head?, character ∈ delimiters

theorem delimited_nil : Delimited [] := by
  rintro character ⟨⟩

theorem delimited_cons {character : Char} (delimiter : character ∈ delimiters)
    (text : List Char) : Delimited (character :: text) := by
  rintro first ⟨⟩
  exact delimiter

namespace NumberScan

theorem digit?_digitChar {digit : Nat} (small : digit < 10) :
    digit? (Nat.digitChar digit) = some digit := by
  decide +revert

theorem digitChar_ne_point {digit : Nat} (small : digit < 10) : Nat.digitChar digit ≠ '.' := by
  decide +revert

/-- The scan of digits alone: only a zero keeps others from following. -/
def ofDigits (negative : Bool) (significand : Nat) : NumberScan :=
  if significand = 0 then .zero { negative, significand, exponent := 0, plain := true }
  else .whole { negative, significand, exponent := 0, plain := true }

theorem firstDigit_digitChar {digit : Nat} (small : digit < 10) (negative : Bool) :
    firstDigit negative (Nat.digitChar digit) = some (ofDigits negative digit) := by
  simp [firstDigit, digit?_digitChar small, ofDigits]

theorem step_ofDigits {significand digit : Nat} (positive : 0 < significand) (small : digit < 10)
    (bounded : significand * 10 + digit < 2 ^ 64) (negative : Bool) :
    (ofDigits negative significand).step (Nat.digitChar digit) =
      some (ofDigits negative (significand * 10 + digit)) := by
  have notPoint := digitChar_ne_point small
  have fitting : fits { negative, significand, exponent := 0, plain := true } digit = true :=
    decide_eq_true bounded
  rw [ofDigits, if_neg (by omega), ofDigits, if_neg (by omega)]
  simp [step, digit?_digitChar small, fitting, push]

theorem step_delimiter {character : Char} (delimiter : character ∈ delimiters)
    (negative : Bool) (significand : Nat) :
    (ofDigits negative significand).step character = none := by
  simp only [delimiters, List.mem_cons, List.not_mem_nil, or_false] at delimiter
  unfold ofDigits
  split
  · rcases delimiter with rfl | rfl | rfl | rfl | rfl | rfl | rfl <;> rfl
  · rcases delimiter with rfl | rfl | rfl | rfl | rfl | rfl | rfl <;> rfl

theorem finish_ofDigits (negative : Bool) (significand : Nat) :
    (ofDigits negative significand).finish =
      some { negative, significand, exponent := 0, plain := true } := by
  unfold ofDigits
  split <;> rfl

end NumberScan

/-- The digits of a number are scanned from where its first digit can stand. -/
theorem tokensFrom_decimal {mode : Mode} {negative : Bool}
    (first : ∀ digit < 10, mode.step (Nat.digitChar digit) =
      some ([], .number (.ofDigits negative digit)))
    {significand : Nat} (bounded : significand < 2 ^ 64) (text : List Char) :
    tokensFrom mode (decimal significand ++ text) =
      tokensFrom (.number (.ofDigits negative significand)) text := by
  -- the last digit is read where the number of the digits before it has been scanned
  induction significand using Nat.strongRecOn generalizing text with
  | ind significand ih =>
      unfold decimal
      by_cases small : significand < 10
      · rw [Nat.toDigits_of_lt_base small]
        exact tokensFrom_of_silent (first significand small) text
      · have last : significand % 10 < 10 := Nat.mod_lt significand (by omega)
        have whole : significand / 10 * 10 + significand % 10 = significand := by omega
        have step := NumberScan.step_ofDigits (show 0 < significand / 10 by omega) last
          (by omega) negative
        rw [whole] at step
        rw [Nat.toDigits_of_base_le (by omega) (by omega), List.append_assoc,
          List.singleton_append]
        refine (ih (significand / 10) (by omega) (by omega) _).trans ?_
        exact tokensFrom_of_silent (by simp [Mode.step, step]) text

/-- A number ends where a delimiter or nothing follows. -/
theorem tokensFrom_scanned (negative : Bool) (significand : Nat) {text : List Char}
    (delimited : Delimited text) :
    tokensFrom (.number (.ofDigits negative significand)) text =
      (tokensFrom .between text).map
        ([.number { negative, significand, exponent := 0, plain := true }] ++ ·) := by
  have finish := NumberScan.finish_ofDigits negative significand
  cases text with
  | nil => simp [tokensFrom, Mode.finish, finish]
  | cons character text =>
      have unread := NumberScan.step_delimiter (delimited character rfl) negative significand
      simp only [tokensFrom, Mode.step, unread, finish]
      rcases begin? character with _ | ⟨tokens, mode⟩
      · rfl
      · simp [Option.map_bind]

theorem tokensFrom_text {value : Number} (whole : value.IsWhole) {text : List Char}
    (delimited : Delimited text) :
    tokensFrom .between (value.text ++ text) =
      (tokensFrom .between text).map ([.number value] ++ ·) := by
  obtain ⟨negative, significand, exponent, plain⟩ := value
  obtain ⟨rfl, rfl, bounded⟩ := whole
  rw [← tokensFrom_scanned negative significand delimited]
  cases negative with
  | true =>
      have first (digit : Nat) (small : digit < 10) :
          (Mode.number .sign).step (Nat.digitChar digit) =
            some ([], .number (.ofDigits true digit)) := by
        simp [Mode.step, NumberScan.step, NumberScan.firstDigit_digitChar small]
      exact (tokensFrom_of_silent rfl _).trans
        (by simpa using tokensFrom_decimal first bounded text)
  | false =>
      have first (digit : Nat) (small : digit < 10) :
          Mode.between.step (Nat.digitChar digit) =
            some ([], .number (.ofDigits false digit)) := by
        interval_cases digit <;> rfl
      simpa [Number.text] using tokensFrom_decimal first bounded text

/-! ### Values -/

inductive Within : Nat → Json → Prop where
  | null {depth : Nat} : Within depth .null
  | bool {depth : Nat} (value : Bool) : Within depth (.bool value)
  | number {depth : Nat} {value : Number} (whole : value.IsWhole) : Within depth (.number value)
  | string {depth : Nat} (text : String) : Within depth (.string text)
  | array {depth : Nat} {elements : List Json}
      (each : ∀ element ∈ elements, Within depth element) : Within (depth + 1) (.array elements)
  | object {depth : Nat} {members : List (String × Json)}
      (each : ∀ member ∈ members, Within depth member.2) : Within (depth + 1) (.object members)

mutual

def written : Json → List Token
  | .null => [.null]
  | .bool value => [.bool value]
  | .number value => [.number value]
  | .string text => [.string (pieces text)]
  | .array elements => .openArray :: writtenElements elements ++ [.closeArray]
  | .object members => .openObject :: writtenMembers members ++ [.closeObject]

def writtenElements : List Json → List Token
  | [] => []
  | [element] => element.written
  | element :: next :: rest => element.written ++ .comma :: writtenElements (next :: rest)

def writtenMembers : List (String × Json) → List Token
  | [] => []
  | [(name, value)] => .string (pieces name) :: .colon :: value.written
  | (name, value) :: next :: rest =>
      .string (pieces name) :: .colon :: value.written ++ .comma :: writtenMembers (next :: rest)

end

def Lexes (characters : List Char) (tokens : List Token) : Prop :=
  ∀ text, Delimited text →
    tokensFrom .between (characters ++ text) = (tokensFrom .between text).map (tokens ++ ·)

namespace Lexes

variable {first second : List Char} {tokens others : List Token}

theorem empty : Lexes [] [] := by
  intro text _
  simp

theorem listed (left : Lexes first tokens) (right : Lexes second others) :
    Lexes (first ++ ',' :: second) (tokens ++ .comma :: others) := by
  intro text delimited
  have comma : Mode.between.step ',' = some ([.comma], .between) := rfl
  rw [List.append_assoc, List.cons_append, left _ (delimited_cons (by decide) _),
    tokensFrom_of_token comma, right text delimited]
  simp [Function.comp_def]

theorem member (value : Lexes first tokens) (name : String) :
    Lexes (stringText name ++ ':' :: first) (.string (pieces name) :: .colon :: tokens) := by
  intro text delimited
  have colon : Mode.between.step ':' = some ([.colon], .between) := rfl
  rw [List.append_assoc, tokensFrom_stringText, List.cons_append, tokensFrom_of_token colon,
    value text delimited]
  simp [Function.comp_def]

theorem array (elements : Lexes first tokens) :
    Lexes ('[' :: first ++ [']']) (.openArray :: tokens ++ [.closeArray]) := by
  intro text _
  have opened : Mode.between.step '[' = some ([.openArray], .between) := rfl
  have closed : Mode.between.step ']' = some ([.closeArray], .between) := rfl
  rw [List.append_assoc, List.cons_append, tokensFrom_of_token opened, List.singleton_append,
    elements _ (delimited_cons (by decide) _), tokensFrom_of_token closed]
  simp [Function.comp_def]

theorem object (members : Lexes first tokens) :
    Lexes ('{' :: first ++ ['}']) (.openObject :: tokens ++ [.closeObject]) := by
  intro text _
  have opened : Mode.between.step '{' = some ([.openObject], .between) := rfl
  have closed : Mode.between.step '}' = some ([.closeObject], .between) := rfl
  rw [List.append_assoc, List.cons_append, tokensFrom_of_token opened, List.singleton_append,
    members _ (delimited_cons (by decide) _), tokensFrom_of_token closed]
  simp [Function.comp_def]

theorem elements {values : List Json}
    (each : ∀ value ∈ values, Lexes value.characters value.written) :
    Lexes (elementsText values) (writtenElements values) := by
  induction values with
  | nil => exact empty
  | cons value rest ih =>
      have head := each value List.mem_cons_self
      have tail := ih fun other inRest => each other (List.mem_cons_of_mem _ inRest)
      cases rest with
      | nil => exact head
      | cons next rest => exact head.listed tail

theorem members {members : List (String × Json)}
    (each : ∀ member ∈ members, Lexes member.2.characters member.2.written) :
    Lexes (membersText members) (writtenMembers members) := by
  induction members with
  | nil => exact empty
  | cons entry rest ih =>
      have head := (each entry List.mem_cons_self).member entry.1
      have tail := ih fun other inRest => each other (List.mem_cons_of_mem _ inRest)
      cases rest with
      | nil => exact head
      | cons next rest => exact head.listed tail

end Lexes

theorem tokensFrom_word {letters : List Char} (some_letters : letters ≠ []) (token : Token)
    (text : List Char) :
    tokensFrom (.word letters token) (letters ++ text) =
      (tokensFrom .between text).map ([token] ++ ·) := by
  induction letters with
  | nil => exact absurd rfl some_letters
  | cons letter letters ih =>
      cases letters with
      | nil =>
          apply tokensFrom_of_token
          simp [Mode.step]
      | cons next letters =>
          have read : (Mode.word (letter :: next :: letters) token).step letter =
              some ([], .word (next :: letters) token) := by
            simp [Mode.step]
          rw [List.cons_append, tokensFrom_of_silent read]
          exact ih (List.cons_ne_nil next letters)

theorem lexes_word {first : Char} {letters : List Char} {token : Token}
    (opens : Mode.between.step first = some ([], .word letters token))
    (some_letters : letters ≠ []) : Lexes (first :: letters) [token] := by
  intro text _
  rw [List.cons_append, tokensFrom_of_silent opens, tokensFrom_word some_letters]

theorem lexes_characters {depth : Nat} {json : Json} (within : json.Within depth) :
    Lexes json.characters json.written := by
  induction within with
  | null => exact lexes_word rfl (List.cons_ne_nil _ _)
  | bool value => cases value <;> exact lexes_word rfl (List.cons_ne_nil _ _)
  | number whole => exact fun _ => tokensFrom_text whole
  | string text => exact fun rest _ => tokensFrom_stringText text rest
  | array _ each => exact (Lexes.elements each).array
  | object _ each => exact (Lexes.members each).object

/-- The text of a value is read as its tokens. -/
theorem tokens_render {depth : Nat} {json : Json} (within : json.Within depth) :
    tokens json.render.toList = some json.written := by
  have whole := lexes_characters within [] delimited_nil
  simpa [tokens, render, tokensFrom, Mode.finish] using whole

end Enrolment.Json
