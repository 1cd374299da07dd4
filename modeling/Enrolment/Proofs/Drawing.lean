/-
How codes are drawn. Whatever blocks the source hands out, a code consists of the symbols of the
first usable bytes in them, and it takes no more blocks than hold so many usable bytes. A code
that has to differ from another one is the first to do so of the codes drawn one after another.
-/

import Enrolment.Code

namespace Enrolment.Code

/-! ### One code -/

theorem alphabet_getElem? (byte : UInt8) : alphabet[byte.toNat % 36]? = some (symbol byte) := by
  have inside : byte.toNat % 36 < alphabet.length := Nat.mod_lt _ (by decide)
  rw [symbol, List.getD_eq_getElem?_getD, List.getElem?_eq_getElem inside, Option.getD_some]

def usable (blocks : List Block) : List UInt8 :=
  (blocks.flatMap Vector.toList).filter fun byte => byte.toNat < 252

theorem usable_append (front back : List Block) :
    usable (front ++ back) = usable front ++ usable back := by
  simp [usable]

theorem usable_cons (block : Block) (blocks : List Block) :
    usable (block :: blocks) = usable [block] ++ usable blocks :=
  usable_append [block] blocks

theorem length_usable_cons (block : Block) (blocks : List Block) :
    (usable (block :: blocks)).length = (usable [block]).length + (usable blocks).length := by
  rw [usable_cons, List.length_append]

theorem symbols_eq (block : Block) : symbols block = (usable [block]).map symbol := by
  simp only [symbols, usable, List.flatMap_singleton]
  rfl

structure Fewest (length : Nat) (blocks : List Block) (count : Nat) : Prop where
  enough : length ≤ (usable (blocks.take count)).length
  least : ∀ fewer, length ≤ (usable (blocks.take fewer)).length → count ≤ fewer

theorem fewest_zero (blocks : List Block) : Fewest 0 blocks 0 :=
  ⟨Nat.zero_le _, fun fewer _ => Nat.zero_le fewer⟩

theorem Fewest.within {length count : Nat} {blocks : List Block}
    (fewest : Fewest length blocks count) : length ≤ (usable blocks).length := by
  have enough := fewest.enough
  rw [← List.take_append_drop count blocks, usable_append, List.length_append]
  omega

/-- What the first block holds need not be held by the others. -/
theorem Fewest.cons {length count : Nat} {block : Block} {blocks : List Block}
    (positive : 0 < length) (fewest : Fewest (length - (usable [block]).length) blocks count) :
    Fewest length (block :: blocks) (count + 1) := by
  constructor
  · have others := fewest.enough
    rw [List.take_succ_cons, length_usable_cons]
    omega
  · intro fewer enough
    cases fewer with
    | zero => exact absurd enough (Nat.not_le_of_lt positive)
    | succ fewer =>
        rw [List.take_succ_cons, length_usable_cons] at enough
        exact Nat.succ_le_succ (fewest.least fewer (by omega))

/-- A block gives what it can of the characters that are still lacking. -/
theorem draw_cons {length : Nat} (positive : 0 < length) (block : Block) (blocks : List Block) :
    draw length (block :: blocks) =
      (draw (length - (usable [block]).length) blocks).map fun (more, rest) =>
        (((usable [block]).take length).map symbol ++ more, rest) := by
  cases length with
  | zero => cases positive
  | succ missing =>
      have lacking : missing + 1 - ((symbols block).take (missing + 1)).length =
          missing + 1 - (usable [block]).length := by
        rw [symbols_eq, List.length_take, List.length_map]
        omega
      rw [draw, lacking, symbols_eq, List.map_take]

theorem draw_of_enough {length : Nat} {blocks : List Block}
    (enough : length ≤ (usable blocks).length) :
    ∃ count, Fewest length blocks count ∧
      draw length blocks =
        some (((usable blocks).take length).map symbol, blocks.drop count) := by
  induction blocks generalizing length with
  | nil =>
      obtain rfl : length = 0 := Nat.le_zero.mp enough
      exact ⟨0, fewest_zero [], rfl⟩
  | cons block blocks ih =>
      cases Nat.eq_zero_or_pos length with
      | inl none =>
          subst none
          exact ⟨0, fewest_zero _, rfl⟩
      | inr positive =>
          rw [length_usable_cons] at enough
          have lacking : length - (usable [block]).length ≤ (usable blocks).length := by omega
          obtain ⟨count, fewest, drawn⟩ := ih lacking
          refine ⟨count + 1, fewest.cons positive, ?_⟩
          -- The first block gives all its usable bytes, or all that are asked for.
          rw [draw_cons positive, drawn, usable_cons block blocks, List.take_append, List.map_append]
          rfl

theorem draw_of_few {length : Nat} {blocks : List Block}
    (few : (usable blocks).length < length) : draw length blocks = none := by
  induction blocks generalizing length with
  | nil =>
      cases length with
      | zero => cases few
      | succ missing => rfl
  | cons block blocks ih =>
      rw [length_usable_cons] at few
      have lacking : (usable blocks).length < length - (usable [block]).length := by omega
      rw [draw_cons (by omega), ih lacking, Option.map_none]

/-- Everything that can come of drawing a code: its symbols are those of the first usable bytes,
and no block is taken that is not needed for them. -/
inductive Generates (length : Nat) (blocks : List Block) :
    Except RegistrationError (Code × List Block) → Prop
  | drawn {code : Code} {count : Nat} (fewest : Fewest length blocks count)
      (text : code.text.toList = ((usable blocks).take length).map symbol) :
      Generates length blocks (.ok (code, blocks.drop count))
  | exhausted (few : (usable blocks).length < length) :
      Generates length blocks (.error entropyExhausted)

theorem generates (length : Nat) (blocks : List Block) :
    Generates length blocks (generate length blocks) := by
  rw [generate]
  cases Nat.lt_or_ge (usable blocks).length length with
  | inl few =>
      rw [draw_of_few few]
      exact .exhausted few
  | inr enough =>
      obtain ⟨count, fewest, drawn⟩ := draw_of_enough enough
      rw [drawn]
      exact .drawn fewest (String.toList_ofList)

theorem generate_error {length : Nat} {blocks : List Block} {error : RegistrationError}
    (failed : generate length blocks = .error error) : error = entropyExhausted := by
  have spec := generates length blocks
  rw [failed] at spec
  cases spec with
  | exhausted => rfl

/-- There is entropy for a code if there are usable bytes for all of it. -/
theorem generate_working_iff {length : Nat} {blocks : List Block} :
    generate length blocks ≠ .error entropyExhausted ↔ length ≤ (usable blocks).length := by
  have spec := generates length blocks
  generalize generate length blocks = result at spec ⊢
  cases spec with
  | drawn fewest => exact iff_of_true nofun fewest.within
  | exhausted few => exact iff_of_false (not_not_intro rfl) (Nat.not_le_of_lt few)

theorem generate_nil {length : Nat} (positive : 0 < length) :
    generate length [] = .error entropyExhausted := by
  rw [generate, draw_of_few positive]

theorem Fewest.pos {length count : Nat} {blocks : List Block} (positive : 0 < length)
    (fewest : Fewest length blocks count) : 0 < count := by
  have enough := fewest.enough
  cases count with
  | zero => exact absurd enough (Nat.not_le_of_lt positive)
  | succ count => exact Nat.succ_pos count

/-- A code that is not empty takes a block. -/
theorem length_lt_of_generate {length : Nat} {blocks rest : List Block} {code : Code}
    (positive : 0 < length) (generated : generate length blocks = .ok (code, rest)) :
    rest.length < blocks.length := by
  cases blocks with
  | nil =>
      rw [generate_nil positive] at generated
      cases generated
  | cons block blocks =>
      have spec := generates length (block :: blocks)
      rw [generated] at spec
      cases spec with
      | drawn fewest =>
          have taken := fewest.pos positive
          rw [List.length_drop, List.length_cons]
          omega

/-! ### Codes drawn one after another -/

theorem isMatch_iff {code : Code} {candidate : String} :
    code.isMatch candidate = true ↔ code.text = candidate :=
  beq_iff_eq

theorem isMatch_eq_false_iff {code : Code} {candidate : String} :
    code.isMatch candidate = false ↔ code.text ≠ candidate :=
  beq_eq_false_iff_ne

/-- The codes come one after another from the blocks, and these are left. -/
def Successive (length : Nat) : List Code → List Block → List Block → Prop
  | [], blocks, left => left = blocks
  | code :: codes, blocks, left =>
      ∃ rest, generate length blocks = .ok (code, rest) ∧ Successive length codes rest left

/-- No code is drawn but one, so what is drawn first leaves the same blocks for the others. -/
theorem Successive.others {length : Nat} {front back : List Code} {blocks between left : List Block}
    (whole : Successive length (front ++ back) blocks left)
    (first : Successive length front blocks between) : Successive length back between left := by
  induction front generalizing blocks with
  | nil =>
      obtain rfl : between = blocks := first
      exact whole
  | cons code front ih =>
      obtain ⟨rest, drawn, whole⟩ := whole
      obtain ⟨same, again, first⟩ := first
      rw [drawn] at again
      obtain rfl := (Prod.mk.inj (Except.ok.inj again)).2
      exact ih whole first

theorem Successive.enough {length : Nat} {codes : List Code} {blocks left : List Block}
    (successive : Successive length codes blocks left) (enough : length ≤ (usable left).length) :
    length ≤ (usable blocks).length := by
  cases codes with
  | nil =>
      obtain rfl : left = blocks := successive
      exact enough
  | cons code codes =>
      obtain ⟨rest, drawn, _⟩ := successive
      rw [← generate_working_iff, drawn]
      exact nofun

/-- The previous code may come up again, any number of times; what is then drawn from the blocks
that are left is the answer, be it another code or a failure. -/
theorem drawUntilDistinct_spec {length tries : Nat} (positive : 0 < length) (previous : Code)
    {blocks : List Block} (lasts : blocks.length ≤ tries) :
    ∃ repeats left, Successive length (List.replicate repeats previous) blocks left ∧
      drawUntilDistinct length previous tries blocks = generate length left ∧
      ∀ code rest, generate length left = .ok (code, rest) → code ≠ previous := by
  induction tries generalizing blocks with
  | zero =>
      obtain rfl := List.eq_nil_of_length_eq_zero (Nat.le_zero.mp lasts)
      refine ⟨0, [], rfl, (generate_nil positive).symm, ?_⟩
      intro code rest drawn
      rw [generate_nil positive] at drawn
      cases drawn
  | succ tries ih =>
      cases generated : generate length blocks with
      | error error =>
          refine ⟨0, blocks, rfl, ?_, ?_⟩
          · rw [drawUntilDistinct, generated]
          · intro code rest drawn
            rw [generated] at drawn
            cases drawn
      | ok pair =>
          obtain ⟨code, rest⟩ := pair
          by_cases same : code.isMatch previous.text = true
          · have shorter := length_lt_of_generate positive generated
            have enoughTries : rest.length ≤ tries := by omega
            have again : code = previous := congrArg Code.mk (isMatch_iff.mp same)
            obtain ⟨repeats, left, successive, result, different⟩ := ih enoughTries
            refine ⟨repeats + 1, left, ⟨rest, ?_, successive⟩, ?_, different⟩
            · rw [generated, again]
            · simp only [drawUntilDistinct, generated, same, if_true, result]
          · refine ⟨0, blocks, rfl, ?_, ?_⟩
            · simp only [drawUntilDistinct, generated, same, Bool.false_eq_true, if_false]
            · intro first left drawn
              rw [generated] at drawn
              obtain ⟨rfl, -⟩ := Prod.mk.inj (Except.ok.inj drawn)
              rintro rfl
              exact same (isMatch_iff.mpr rfl)

/-- The blocks last for as many tries as there are blocks, so the tries never run out first. -/
theorem generateDistinct_spec {length : Nat} (positive : 0 < length) (previous : Code)
    (blocks : List Block) :
    ∃ repeats left, Successive length (List.replicate repeats previous) blocks left ∧
      generateDistinct length previous blocks = generate length left ∧
      ∀ code rest, generate length left = .ok (code, rest) → code ≠ previous := by
  rw [generateDistinct, if_neg (by omega)]
  exact drawUntilDistinct_spec positive previous (Nat.le_refl _)

end Enrolment.Code
