/-
Codes are drawn fairly. Each symbol of the alphabet stands for seven usable bytes, so that all
codes of one length are spelled by equally many runs of usable bytes, and nothing but the first
run of that length decides which code is drawn.
-/

import Enrolment.Proofs.Drawing
import Mathlib.Data.Set.Card

namespace Enrolment.Code

/-! ### Bytes that spell a code -/

def bytesOf (character : Char) : Set UInt8 :=
  {byte | byte.toNat < 252 ∧ symbol byte = character}

def spellings (characters : List Char) : Set (List UInt8) :=
  {bytes | bytes.length = characters.length ∧ (∀ byte ∈ bytes, byte.toNat < 252) ∧
    bytes.map symbol = characters}

theorem mem_bytesOf_iff {position : Nat} (inside : position < alphabet.length) {byte : UInt8} :
    byte ∈ bytesOf alphabet[position] ↔ byte.toNat < 252 ∧ byte.toNat % 36 = position := by
  have distinct : alphabet.Nodup := by decide
  obtain ⟨_, drawn⟩ := List.getElem?_eq_some_iff.mp (alphabet_getElem? byte)
  rw [bytesOf, Set.mem_ofPred_eq, ← drawn, distinct.getElem_inj_iff]

/-- Once in each of the seven rounds through the alphabet that the usable bytes make. -/
theorem bytesOf_eq {position : Nat} (inside : position < alphabet.length) :
    bytesOf alphabet[position] =
      (fun round => UInt8.ofNat (36 * round + position)) '' (Finset.range 7 : Set Nat) := by
  have small : position < 36 := inside
  ext byte
  rw [mem_bytesOf_iff inside, Set.mem_image]
  simp only [Finset.coe_range, Set.mem_Iio]
  constructor
  · rintro ⟨usable, same⟩
    refine ⟨byte.toNat / 36, by omega, ?_⟩
    rw [← same, Nat.div_add_mod, UInt8.ofNat_toNat]
  · rintro ⟨round, inRange, rfl⟩
    have below : 36 * round + position < 252 := by omega
    simp only [UInt8.toNat_ofNat_of_lt' (Nat.lt_trans below (by decide))]
    omega

theorem ncard_bytesOf {character : Char} (inAlphabet : character ∈ alphabet) :
    (bytesOf character).ncard = 7 := by
  obtain ⟨position, inside, rfl⟩ := List.mem_iff_getElem.mp inAlphabet
  have different : Set.InjOn (fun round => UInt8.ofNat (36 * round + position))
      (Finset.range 7 : Set Nat) := by
    intro first inFirst second inSecond same
    have small : position < 36 := inside
    have values := congrArg UInt8.toNat same
    simp only [Finset.coe_range, Set.mem_Iio, UInt8.toNat_ofNat'] at inFirst inSecond values
    omega
  rw [bytesOf_eq inside, different.ncard_image, Set.ncard_coe_finset,
    Finset.card_range]

theorem spellings_nil : spellings [] = {[]} := by
  ext bytes
  rw [spellings, Set.mem_ofPred_eq, Set.mem_singleton_iff]
  constructor
  · rintro ⟨length, -, -⟩
    exact List.eq_nil_of_length_eq_zero length
  · rintro rfl
    exact ⟨rfl, List.forall_mem_nil _, rfl⟩

theorem spellings_cons (character : Char) (characters : List Char) :
    spellings (character :: characters) =
      (fun pair : UInt8 × List UInt8 => pair.1 :: pair.2) ''
        (bytesOf character ×ˢ spellings characters) := by
  ext bytes
  constructor
  · rintro ⟨length, small, given⟩
    cases bytes with
    | nil => cases length
    | cons byte bytes =>
        rw [List.forall_mem_cons] at small
        obtain ⟨first, others⟩ := List.cons.inj given
        exact ⟨(byte, bytes), ⟨⟨small.1, first⟩, Nat.succ.inj length, small.2, others⟩, rfl⟩
  · rintro ⟨⟨byte, bytes⟩, ⟨⟨firstSmall, first⟩, length, small, given⟩, rfl⟩
    exact ⟨congrArg Nat.succ length, List.forall_mem_cons.mpr ⟨firstSmall, small⟩,
      List.cons_eq_cons.mpr ⟨first, given⟩⟩

theorem ncard_spellings {characters : List Char}
    (inAlphabet : ∀ character ∈ characters, character ∈ alphabet) :
    (spellings characters).ncard = 7 ^ characters.length := by
  induction characters with
  | nil => rw [spellings_nil, Set.ncard_singleton, List.length_nil, pow_zero]
  | cons character characters ih =>
      rw [List.forall_mem_cons] at inAlphabet
      have different : Function.Injective fun pair : UInt8 × List UInt8 => pair.1 :: pair.2 :=
        fun first second same => Prod.ext (List.cons.inj same).1 (List.cons.inj same).2
      rw [spellings_cons, Set.ncard_image_of_injective _ different, Set.ncard_prod,
        ncard_bytesOf inAlphabet.1, ih inAlphabet.2, List.length_cons, pow_succ']

/-! ### Fair draws -/

/-- How codes of some length are drawn from a source. One that has to differ from a previous code
is drawn where that code has come up for the last time in a row. -/
structure DrawsFairly (length : Nat) (source : List Block) (previous : Code) : Prop where
  symbols : ∀ byte : UInt8, alphabet[byte.toNat % 36]? = some (symbol byte)
  generated : Generates length source (generate length source)
  unbiased : ∀ characters : List Char, characters.length = length →
    (∀ character ∈ characters, character ∈ alphabet) →
    (spellings characters).ncard = 7 ^ length
  distinct : 1 ≤ length → ∃ repeats left,
    Successive length (List.replicate repeats previous) source left ∧
      generateDistinct length previous source = generate length left ∧
      ∀ code rest, generate length left = .ok (code, rest) → code ≠ previous

theorem drawsFairly (length : Nat) (source : List Block) (previous : Code) :
    DrawsFairly length source previous where
  symbols := alphabet_getElem?
  generated := generates length source
  unbiased := by
    rintro characters rfl inAlphabet
    exact ncard_spellings inAlphabet
  distinct positive := generateDistinct_spec positive previous source

def scarce : List Block :=
  [(Vector.replicate 32 255).set 31 0, Vector.replicate 32 61]

/-- A code goes on in the next block, and so does the search for one that is not the previous. -/
theorem drawsFairly_across_blocks :
    DrawsFairly 2 scarce ⟨"A"⟩ ∧ DrawsFairly 1 scarce ⟨"A"⟩ ∧
      generate 2 scarce = .ok (⟨"AZ"⟩, []) ∧
      generateDistinct 1 ⟨"A"⟩ scarce = .ok (⟨"Z"⟩, []) :=
  ⟨drawsFairly 2 scarce ⟨"A"⟩, drawsFairly 1 scarce ⟨"A"⟩, by decide, by decide⟩

end Enrolment.Code
