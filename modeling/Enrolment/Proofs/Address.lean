/-
Which texts are addresses. The grammar is said in words, and once more as a pattern in which
classes of characters are repeated; reading accepts what the grammar says, which is what the
pattern and the rules about dots and lengths say together, and it names the first fault of
anything else.
-/

import Enrolment.Email
import Enrolment.Proofs.Cutting
import Mathlib

namespace Enrolment

open Text

open scoped Computability

namespace Email

/-! ### Grammar -/

def mailboxMarks : List Char :=
  ".!#$%&'*+/=?^_`\x7b|\x7d~-".toList

def InMailbox (character : Char) : Prop :=
  character.isAlphanum = true ∨ character ∈ mailboxMarks

structure IsMailbox (characters : List Char) : Prop where
  length : 1 ≤ characters.length ∧ characters.length ≤ 64
  allowed : ∀ character ∈ characters, InMailbox character
  noDotFirst : characters.head? ≠ some '.'
  noDotLast : characters.getLast? ≠ some '.'
  noDots : ¬ ['.', '.'] <:+: characters

structure IsHostLabel (characters : List Char) : Prop where
  length : 1 ≤ characters.length ∧ characters.length ≤ 63
  allowed : ∀ character ∈ characters, character.isAlphanum = true ∨ character = '-'
  noHyphenFirst : characters.head? ≠ some '-'
  noHyphenLast : characters.getLast? ≠ some '-'

def IsHost (characters : List Char) : Prop :=
  ∃ labels, labels ≠ [] ∧ (∀ label ∈ labels, IsHostLabel label) ∧
    characters = ['.'].intercalate labels

structure IsAddress (characters : List Char) : Prop where
  short : byteLength characters ≤ 254
  parts : ∃ mailbox host, characters = mailbox ++ '@' :: host ∧ IsMailbox mailbox ∧ IsHost host

/-! ### Pattern -/

def one (test : Char → Prop) : Language Char :=
  {word | ∃ character, word = [character] ∧ test character}

def letterOrDigit : Language Char := one fun character => character.isAlphanum = true

def labelCharacter : Language Char :=
  one fun character => character.isAlphanum = true ∨ character = '-'

def labelPattern : Language Char :=
  letterOrDigit * (1 + (1 + labelCharacter) ^ 61 * letterOrDigit)

def hostPattern : Language Char :=
  labelPattern * (one (· = '.') * labelPattern)∗

def addressPattern : Language Char :=
  one InMailbox * (one InMailbox)∗ * one (· = '@') * hostPattern

/-- The rules that the pattern leaves out: lengths, and where dots stand before the last at
sign. -/
structure Checked (characters : List Char) : Prop where
  short : byteLength characters ≤ 254
  parts : ∃ mailbox host, cutLast '@' characters = some (mailbox, host) ∧
    byteLength mailbox ≤ 64 ∧ mailbox.head? ≠ some '.' ∧ mailbox.getLast? ≠ some '.' ∧
    ¬ ['.', '.'] <:+: mailbox

/-! ### Faults -/

inductive Fault (characters : List Char) : EmailError → Prop
  | empty (none : characters = []) : Fault characters .empty
  | tooLong (long : 254 < byteLength characters) :
      Fault characters (.tooLong (byteLength characters))
  | noSign (some : characters ≠ []) (short : byteLength characters ≤ 254)
      (none : '@' ∉ characters) :
      Fault characters (.invalidFormat (String.ofList characters))
  | localPartTooLong {mailbox host : List Char} (short : byteLength characters ≤ 254)
      (parts : characters = mailbox ++ '@' :: host) (last : '@' ∉ host)
      (long : 64 < byteLength mailbox) :
      Fault characters (.localPartTooLong (byteLength mailbox))
  | malformed {mailbox host : List Char} (short : byteLength characters ≤ 254)
      (parts : characters = mailbox ++ '@' :: host) (last : '@' ∉ host)
      (shortMailbox : byteLength mailbox ≤ 64) (other : ¬ IsAddress characters) :
      Fault characters (.invalidFormat (String.ofList characters))

/-- What reading makes of the text between the blanks. -/
structure Judged (characters : List Char) (answer : Except EmailError Email) : Prop where
  accepted_iff : ∀ email, answer = .ok email ↔
    IsAddress characters ∧ email.address = String.ofList (characters.map Char.toLower)
  accepted_iff_pattern : (∃ email, answer = .ok email) ↔
    Checked characters ∧ characters ∈ addressPattern
  refused_iff : ∀ error, answer = .error error ↔ Fault characters error

/-! ### Characters -/

theorem isLetterOrDigit_iff {character : Char} :
    isLetterOrDigit character = true ↔ character.isAlphanum = true := by
  simp only [isLetterOrDigit, Char.isAlphanum, Char.isAlpha, Char.isUpper, Char.isLower,
    Char.isDigit, Char.le_def, Bool.or_eq_true, Bool.and_eq_true, decide_eq_true_eq, ge_iff_le]
  tauto

theorem inMailbox_iff {character : Char} :
    InMailbox character ↔ character ≠ '.' → isWordCharacter character = true := by
  have marks : mailboxMarks = '.' :: wordMarks := by decide
  rw [InMailbox, isWordCharacter, Bool.or_eq_true, isLetterOrDigit_iff, List.contains_iff_mem,
    marks, List.mem_cons]
  tauto

def IsGraphic (character : Char) : Prop :=
  32 < character.toNat ∧ character.toNat < 127

instance (character : Char) : Decidable (IsGraphic character) :=
  inferInstanceAs (Decidable (_ ∧ _))

theorem isGraphic_of_isAlphanum {character : Char} (letterOrDigit : character.isAlphanum = true) :
    IsGraphic character := by
  simp only [Char.isAlphanum, Char.isAlpha, Char.isUpper, Char.isLower, Char.isDigit,
    Bool.or_eq_true, Bool.and_eq_true, decide_eq_true_eq, ge_iff_le,
    UInt32.le_iff_toNat_le] at letterOrDigit
  change (((65 ≤ character.toNat ∧ character.toNat ≤ 90) ∨
    (97 ≤ character.toNat ∧ character.toNat ≤ 122)) ∨
    (48 ≤ character.toNat ∧ character.toNat ≤ 57)) at letterOrDigit
  unfold IsGraphic
  omega

theorem InMailbox.isGraphic {character : Char} (inMailbox : InMailbox character) :
    IsGraphic character := by
  rcases inMailbox with letterOrDigit | mark
  · exact isGraphic_of_isAlphanum letterOrDigit
  · have marks : mailboxMarks.all (fun mark => IsGraphic mark) = true := by decide
    exact of_decide_eq_true (List.all_eq_true.mp marks character mark)

theorem IsGraphic.utf8Size {character : Char} (isGraphic : IsGraphic character) :
    character.utf8Size = 1 := by
  rw [Char.utf8Size_eq_one_iff, UInt32.le_iff_toNat_le]
  exact Nat.le_of_lt isGraphic.2

theorem byteLength_cons (head : Char) (tail : List Char) :
    byteLength (head :: tail) = head.utf8Size + byteLength tail := by
  rw [byteLength, String.ofList_cons, String.utf8ByteSize_append, String.utf8ByteSize_singleton]
  rfl

theorem byteLength_eq_length {characters : List Char}
    (graphic : ∀ character ∈ characters, IsGraphic character) :
    byteLength characters = characters.length := by
  induction characters with
  | nil => rfl
  | cons head tail ih =>
      rw [List.forall_mem_cons] at graphic
      rw [byteLength_cons, graphic.1.utf8Size, ih graphic.2, List.length_cons, Nat.add_comm]

/-! ### Parts -/

theorem isMailbox_iff {characters : List Char} :
    IsMailbox characters ↔
      byteLength characters ≤ 64 ∧ isLocalPart characters = true := by
  have words : isLocalPart characters = true ↔
      (∀ word ∈ pieces '.' characters, word ≠ []) ∧
        ∀ word ∈ pieces '.' characters, ∀ character ∈ word,
          isWordCharacter character = true := by
    simp only [isLocalPart, isWord, List.all_eq_true, Bool.and_eq_true, decide_eq_true_eq]
    exact forall₂_and
  have allowed : (∀ character ∈ characters, character ≠ '.' →
      isWordCharacter character = true) ↔ ∀ character ∈ characters, InMailbox character :=
    forall₂_congr fun _ _ => inMailbox_iff.symm
  rw [words, pieces_ne_nil_iff, forall_mem_pieces_iff, allowed]
  constructor
  · rintro ⟨⟨some, short⟩, allowed, noDotFirst, noDotLast, noDots⟩
    rw [byteLength_eq_length fun character member => (allowed character member).isGraphic]
    exact ⟨short, ⟨List.ne_nil_of_length_pos some, noDotFirst, noDotLast, noDots⟩, allowed⟩
  · rintro ⟨short, ⟨some, noDotFirst, noDotLast, noDots⟩, allowed⟩
    rw [byteLength_eq_length fun character member => (allowed character member).isGraphic] at short
    exact ⟨⟨List.length_pos_of_ne_nil some, short⟩, allowed, noDotFirst, noDotLast, noDots⟩

theorem isHostLabel_iff {characters : List Char} :
    IsHostLabel characters ↔ isLabel characters = true := by
  simp only [isLabel, Bool.and_eq_true, decide_eq_true_eq, List.all_eq_true, Bool.or_eq_true,
    isLetterOrDigit_iff, beq_iff_eq, bne_iff_ne]
  constructor
  · rintro ⟨length, allowed, noHyphenFirst, noHyphenLast⟩
    exact ⟨⟨⟨length, allowed⟩, noHyphenFirst⟩, noHyphenLast⟩
  · rintro ⟨⟨⟨length, allowed⟩, noHyphenFirst⟩, noHyphenLast⟩
    exact ⟨length, allowed, noHyphenFirst, noHyphenLast⟩

theorem isHost_iff_pieces {characters : List Char} :
    IsHost characters ↔ ∀ label ∈ pieces '.' characters, IsHostLabel label := by
  constructor
  · rintro ⟨labels, some, good, rfl⟩
    have free : ∀ label ∈ labels, '.' ∉ label := by
      intro label member dot
      exact absurd ((good label member).allowed '.' dot) (by decide)
    rw [pieces_intercalate some free]
    exact good
  · intro good
    rw [pieces_eq_splitOn] at good
    exact ⟨_, List.splitOn_ne_nil _ _, good, (List.intercalate_splitOn '.').symm⟩

theorem isHost_iff {characters : List Char} :
    IsHost characters ↔ isDomain characters = true := by
  rw [isHost_iff_pieces, isDomain, List.all_eq_true]
  exact forall₂_congr fun _ _ => isHostLabel_iff

theorem IsHost.allowed {characters : List Char} (isHost : IsHost characters) :
    ∀ character ∈ characters, character ≠ '.' →
      character.isAlphanum = true ∨ character = '-' :=
  forall_mem_pieces_iff.mp fun label member =>
    (isHost_iff_pieces.mp isHost label member).allowed

theorem IsHost.noSign {characters : List Char} (isHost : IsHost characters) :
    '@' ∉ characters := by
  intro sign
  exact absurd (isHost.allowed '@' sign) (by decide)

/-! ### Patterns -/

section Pattern

variable {test : Char → Prop} {word : List Char}

theorem mem_one_star_iff :
    word ∈ (one test)∗ ↔ ∀ character ∈ word, test character := by
  rw [Language.mem_kstar]
  constructor
  · rintro ⟨words, rfl, good⟩ character member
    obtain ⟨single, inWords, inSingle⟩ := List.mem_flatten.mp member
    obtain ⟨only, rfl, passes⟩ := good single inWords
    rw [List.mem_singleton.mp inSingle]
    exact passes
  · intro good
    refine ⟨word.map ([·]), ?_, ?_⟩
    · rw [← List.flatMap_def, List.flatMap_singleton']
    · intro single member
      obtain ⟨character, inWord, rfl⟩ := List.mem_map.mp member
      exact ⟨character, rfl, good character inWord⟩

theorem mem_atMost_iff {bound : Nat} :
    word ∈ (1 + one test) ^ bound ↔
      word.length ≤ bound ∧ ∀ character ∈ word, test character := by
  induction bound generalizing word with
  | zero => simp +contextual [Language.mem_one]
  | succ bound ih =>
      rw [pow_succ', Language.mem_mul]
      constructor
      · rintro ⟨first, perhaps, rest, others, rfl⟩
        obtain ⟨short, good⟩ := ih.mp others
        rcases perhaps with rfl | ⟨character, rfl, passes⟩
        · exact ⟨Nat.le_succ_of_le short, good⟩
        · exact ⟨Nat.succ_le_succ short, List.forall_mem_cons.mpr ⟨passes, good⟩⟩
      · rintro ⟨short, good⟩
        cases word with
        | nil =>
            exact ⟨[], .inl rfl, [], ih.mpr ⟨Nat.zero_le _, good⟩, rfl⟩
        | cons character rest =>
            rw [List.forall_mem_cons] at good
            exact ⟨[character], .inr ⟨character, rfl, good.1⟩, rest,
              ih.mpr ⟨Nat.le_of_succ_le_succ short, good.2⟩, rfl⟩

end Pattern

theorem ne_hyphen_of_isAlphanum {character : Char} (good : character.isAlphanum = true) :
    character ≠ '-' := by
  rintro rfl
  exact absurd good (by decide)

theorem mem_labelPattern_iff {characters : List Char} :
    characters ∈ labelPattern ↔ IsHostLabel characters := by
  constructor
  · rintro ⟨_, ⟨first, rfl, firstGood⟩, rest, ending, rfl⟩
    have noHyphenFirst : (first :: rest).head? ≠ some '-' := by
      simpa using ne_hyphen_of_isAlphanum firstGood
    rcases ending with rfl | ⟨middle, inMiddle, _, ⟨last, rfl, lastGood⟩, rfl⟩
    · exact ⟨by simp, by simpa using .inl firstGood, noHyphenFirst, noHyphenFirst⟩
    · obtain ⟨short, middleGood⟩ := mem_atMost_iff.mp inMiddle
      refine ⟨⟨Nat.le_add_left 1 _, ?_⟩, ?_, noHyphenFirst, ?_⟩
      · simp only [List.length_append, List.length_cons, List.length_nil]
        omega
      · simpa [or_imp, forall_and] using
          ⟨.inl firstGood, middleGood, .inl lastGood⟩
      · simpa [List.getLast?_cons] using ne_hyphen_of_isAlphanum lastGood
  · rintro ⟨⟨some, short⟩, allowed, noHyphenFirst, noHyphenLast⟩
    cases characters with
    | nil => cases some
    | cons first rest =>
        rw [List.forall_mem_cons] at allowed
        obtain ⟨firstAllowed, restAllowed⟩ := allowed
        have firstGood : first.isAlphanum = true :=
          firstAllowed.resolve_right (by simpa using noHyphenFirst)
        refine ⟨[first], ⟨first, rfl, firstGood⟩, rest, ?_, rfl⟩
        rcases List.eq_nil_or_concat' rest with rfl | ⟨middle, last, rfl⟩
        · exact .inl rfl
        · rw [List.forall_mem_append, List.forall_mem_singleton] at restAllowed
          obtain ⟨middleAllowed, lastAllowed⟩ := restAllowed
          have lastGood : last.isAlphanum = true :=
            lastAllowed.resolve_right (by simpa [List.getLast?_cons] using noHyphenLast)
          refine .inr ⟨middle, mem_atMost_iff.mpr ⟨?_, middleAllowed⟩, [last],
            ⟨last, rfl, lastGood⟩, rfl⟩
          simp only [List.length_append, List.length_cons, List.length_nil] at short
          omega

theorem intercalate_cons (first : List Char) (others : List (List Char)) :
    ['.'].intercalate (first :: others) = first ++ (others.map ('.' :: ·)).flatten := by
  induction others generalizing first with
  | nil => simp
  | cons next rest ih => simp [List.intercalate_cons_cons, ih]

theorem mem_dotted_iff {characters : List Char} :
    characters ∈ one (· = '.') * labelPattern ↔
      ∃ label, IsHostLabel label ∧ characters = '.' :: label := by
  constructor
  · rintro ⟨_, ⟨_, rfl, rfl⟩, label, good, rfl⟩
    exact ⟨label, mem_labelPattern_iff.mp good, rfl⟩
  · rintro ⟨label, good, rfl⟩
    exact ⟨['.'], ⟨'.', rfl, rfl⟩, label, mem_labelPattern_iff.mpr good, rfl⟩

theorem mem_hostPattern_iff {characters : List Char} :
    characters ∈ hostPattern ↔ IsHost characters := by
  constructor
  · rintro ⟨first, firstGood, _, ⟨dotted, rfl, dottedGood⟩, rfl⟩
    have spelled : (dotted.map List.tail).map ('.' :: ·) = dotted := by
      rw [List.map_map]
      refine (List.map_congr_left fun piece member => ?_).trans (List.map_id dotted)
      obtain ⟨label, _, rfl⟩ := mem_dotted_iff.mp (dottedGood piece member)
      rfl
    refine ⟨first :: dotted.map List.tail, List.cons_ne_nil _ _, ?_, ?_⟩
    · rw [List.forall_mem_cons, List.forall_mem_map]
      refine ⟨mem_labelPattern_iff.mp firstGood, fun piece member => ?_⟩
      obtain ⟨label, good, rfl⟩ := mem_dotted_iff.mp (dottedGood piece member)
      exact good
    · rw [intercalate_cons, spelled]
  · rintro ⟨labels, some, good, rfl⟩
    cases labels with
    | nil => exact absurd rfl some
    | cons first others =>
        rw [List.forall_mem_cons] at good
        obtain ⟨firstGood, othersGood⟩ := good
        refine ⟨first, mem_labelPattern_iff.mpr firstGood, _, ?_, (intercalate_cons _ _).symm⟩
        refine Language.join_mem_kstar fun dotted member => ?_
        obtain ⟨label, inOthers, rfl⟩ := List.mem_map.mp member
        exact mem_dotted_iff.mpr ⟨label, othersGood label inOthers, rfl⟩

theorem mem_addressPattern_iff {characters : List Char} :
    characters ∈ addressPattern ↔
      ∃ mailbox host, characters = mailbox ++ '@' :: host ∧ mailbox ≠ [] ∧
        (∀ character ∈ mailbox, InMailbox character) ∧ IsHost host := by
  constructor
  · rintro ⟨_, ⟨_, ⟨_, ⟨first, rfl, firstGood⟩, rest, restGood, rfl⟩, _, ⟨_, rfl, rfl⟩, rfl⟩,
      host, hostGood, rfl⟩
    refine ⟨first :: rest, host, List.append_assoc _ _ _, List.cons_ne_nil _ _, ?_,
      mem_hostPattern_iff.mp hostGood⟩
    exact List.forall_mem_cons.mpr ⟨firstGood, mem_one_star_iff.mp restGood⟩
  · rintro ⟨mailbox, host, rfl, some, allowed, isHost⟩
    cases mailbox with
    | nil => exact absurd rfl some
    | cons first rest =>
        rw [List.forall_mem_cons] at allowed
        obtain ⟨firstGood, restGood⟩ := allowed
        exact ⟨_, ⟨_, ⟨[first], ⟨first, rfl, firstGood⟩, rest, mem_one_star_iff.mpr restGood, rfl⟩,
          ['@'], ⟨'@', rfl, rfl⟩, rfl⟩, host, mem_hostPattern_iff.mpr isHost,
          List.append_assoc _ _ _⟩

/-! ### Addresses -/

theorem isAddress_iff_of_cut {characters mailbox host : List Char}
    (cut : cutLast '@' characters = some (mailbox, host)) :
    IsAddress characters ↔
      byteLength characters ≤ 254 ∧ IsMailbox mailbox ∧ IsHost host := by
  constructor
  · rintro ⟨short, otherMailbox, otherHost, rfl, isMailbox, isHost⟩
    rw [cutLast_append isHost.noSign] at cut
    obtain ⟨rfl, rfl⟩ := Prod.mk.inj (Option.some.inj cut)
    exact ⟨short, isMailbox, isHost⟩
  · rintro ⟨short, isMailbox, isHost⟩
    exact ⟨short, mailbox, host, (eq_append_of_cutLast cut).1, isMailbox, isHost⟩

theorem not_isAddress_of_noSign {characters : List Char} (none : '@' ∉ characters) :
    ¬ IsAddress characters := by
  rintro ⟨_, mailbox, host, rfl, _, _⟩
  exact none (List.mem_append_right mailbox List.mem_cons_self)

theorem isAddress_iff_pattern {characters : List Char} :
    IsAddress characters ↔ Checked characters ∧ characters ∈ addressPattern := by
  rw [mem_addressPattern_iff]
  constructor
  · rintro ⟨short, mailbox, host, rfl, isMailbox, isHost⟩
    refine ⟨⟨short, mailbox, host, cutLast_append isHost.noSign, (isMailbox_iff.mp isMailbox).1,
      isMailbox.noDotFirst, isMailbox.noDotLast, isMailbox.noDots⟩, mailbox, host, rfl,
      List.ne_nil_of_length_pos isMailbox.length.1, isMailbox.allowed, isHost⟩
  · rintro ⟨⟨short, mailbox, host, cut, shortMailbox, noDotFirst, noDotLast, noDots⟩,
      otherMailbox, otherHost, rfl, some, allowed, isHost⟩
    rw [cutLast_append isHost.noSign] at cut
    obtain ⟨rfl, rfl⟩ := Prod.mk.inj (Option.some.inj cut)
    rw [byteLength_eq_length fun character member => (allowed character member).isGraphic]
      at shortMailbox
    exact ⟨short, otherMailbox, otherHost, rfl, ⟨⟨List.length_pos_of_ne_nil some, shortMailbox⟩,
      allowed, noDotFirst, noDotLast, noDots⟩, isHost⟩

theorem isAddress_or_fault (characters : List Char) :
    IsAddress characters ∨ ∃ error, Fault characters error := by
  by_cases some : characters = []
  · exact .inr ⟨_, .empty some⟩
  by_cases long : 254 < byteLength characters
  · exact .inr ⟨_, .tooLong long⟩
  have short : byteLength characters ≤ 254 := Nat.le_of_not_lt long
  cases cut : cutLast '@' characters with
  | none => exact .inr ⟨_, .noSign some short (cutLast_eq_none_iff.mp cut)⟩
  | some pair =>
      obtain ⟨mailbox, host⟩ := pair
      obtain ⟨parts, last⟩ := eq_append_of_cutLast cut
      by_cases longMailbox : 64 < byteLength mailbox
      · exact .inr ⟨_, .localPartTooLong short parts last longMailbox⟩
      by_cases isAddress : IsAddress characters
      · exact .inl isAddress
      · exact .inr ⟨_, .malformed short parts last (Nat.le_of_not_lt longMailbox) isAddress⟩

/-! ### Reading -/

section Reading

variable {text : String}

theorem parse_of_cut {mailbox host : List Char}
    (short : byteLength (strip text.toList) ≤ 254)
    (cut : cutLast '@' (strip text.toList) = some (mailbox, host)) :
    parse text =
      if 64 < byteLength mailbox then .error (.localPartTooLong (byteLength mailbox))
      else if isLocalPart mailbox && isDomain host then
        .ok { address := String.ofList ((strip text.toList).map Char.toLower) }
      else .error (.invalidFormat (String.ofList (strip text.toList))) := by
  have some : strip text.toList ≠ [] := by
    intro nothing
    rw [nothing] at cut
    cases cut
  simp only [parse, if_neg some, cut]
  exact if_neg (Nat.not_lt.mpr short)

theorem parse_of_isAddress (isAddress : IsAddress (strip text.toList)) :
    parse text = .ok { address := String.ofList ((strip text.toList).map Char.toLower) } := by
  obtain ⟨short, mailbox, host, parts, isMailbox, isHost⟩ := isAddress
  obtain ⟨shortMailbox, isLocalPart⟩ := isMailbox_iff.mp isMailbox
  have cut : cutLast '@' (strip text.toList) = some (mailbox, host) := by
    rw [parts]
    exact cutLast_append isHost.noSign
  rw [parse_of_cut short cut, if_neg (Nat.not_lt.mpr shortMailbox), isLocalPart,
    isHost_iff.mp isHost]
  rfl

theorem parse_of_fault {error : EmailError} (fault : Fault (strip text.toList) error) :
    parse text = .error error := by
  cases fault with
  | empty none => simp only [parse, if_pos none]
  | tooLong long =>
      have some : strip text.toList ≠ [] := by
        intro nothing
        rw [nothing] at long
        exact absurd long (by decide)
      simp only [parse, if_neg some]
      exact if_pos long
  | noSign some short none =>
      simp only [parse, if_neg some, cutLast_eq_none_iff.mpr none]
      exact if_neg (Nat.not_lt.mpr short)
  | localPartTooLong short parts last long =>
      rw [parse_of_cut short (cutLast_eq_some_iff.mpr ⟨parts, last⟩), if_pos long]
  | malformed short parts last shortMailbox other =>
      have cut := cutLast_eq_some_iff.mpr ⟨parts, last⟩
      rw [isAddress_iff_of_cut cut, isMailbox_iff, isHost_iff] at other
      rw [parse_of_cut short cut, if_neg (Nat.not_lt.mpr shortMailbox), if_neg]
      intro good
      rw [Bool.and_eq_true] at good
      exact other ⟨short, ⟨shortMailbox, good.1⟩, good.2⟩

theorem parse_eq_ok_iff {email : Email} :
    parse text = .ok email ↔ IsAddress (strip text.toList) ∧
      email.address = String.ofList ((strip text.toList).map Char.toLower) := by
  constructor
  · intro accepted
    rcases isAddress_or_fault (strip text.toList) with isAddress | ⟨error, fault⟩
    · rw [parse_of_isAddress isAddress] at accepted
      cases accepted
      exact ⟨isAddress, rfl⟩
    · rw [parse_of_fault fault] at accepted
      cases accepted
  · rintro ⟨isAddress, kept⟩
    rw [parse_of_isAddress isAddress, ← kept]

theorem parse_eq_error_iff {error : EmailError} :
    parse text = .error error ↔ Fault (strip text.toList) error := by
  constructor
  · intro refused
    rcases isAddress_or_fault (strip text.toList) with isAddress | ⟨other, fault⟩
    · rw [parse_of_isAddress isAddress] at refused
      cases refused
    · rw [parse_of_fault fault] at refused
      rw [← Except.error.inj refused]
      exact fault
  · exact parse_of_fault

/-- Every text is judged by what it is without the blanks around it. -/
theorem parse_judged (text : String) :
    ∃ core, (∀ other, Stripped text.toList other ↔ other = core) ∧ Judged core (parse text) := by
  refine ⟨strip text.toList, fun other => stripped_iff, ?_, ?_, ?_⟩
  · intro email
    exact parse_eq_ok_iff
  · rw [← isAddress_iff_pattern]
    constructor
    · rintro ⟨email, accepted⟩
      exact (parse_eq_ok_iff.mp accepted).1
    · intro isAddress
      exact ⟨_, parse_of_isAddress isAddress⟩
  · intro error
    exact parse_eq_error_iff

end Reading

end Email

end Enrolment
