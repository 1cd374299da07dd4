/-
Hashes checked again. The string of a hash spells out how it was made, so whoever reads it
derives with the same parameters and the same salt, and a candidate fits just if that gives the
bytes that the string holds.
-/

import Enrolment.Password
import Enrolment.Proofs.Cutting
import Enrolment.Proofs.Numerals

namespace Enrolment

open Text

/-- What is written item by item is read back item by item. -/
theorem mapM_read_map_write {α β : Type} {write : α → β} {read : β → Option α} {items : List α}
    (back : ∀ item ∈ items, read (write item) = some item) :
    (items.map write).mapM read = some items := by
  induction items with
  | nil => rfl
  | cons item items ih =>
      rw [List.forall_mem_cons] at back
      rw [List.map_cons, List.mapM_cons, back.1, ih back.2]
      rfl

/-! ### Bytes in base 64 -/

namespace Text.Base64

/-- Checked for each of the 64 values. -/
theorem value?_symbol {value : Nat} (small : value < 64) : value? (symbol value) = some value := by
  decide +kernel +revert

-- Three bytes make a word of 24 bits, which is cut into four values; reading puts the word
-- together again and cuts it into bytes. Where the bytes run out, zeros fill the last value.
theorem join_triple (a b c : UInt8) {word : Nat} {values : List Nat} {bytes : List UInt8}
    (whole : word = a.toNat * 65536 + b.toNat * 256 + c.toNat)
    (joined : join values = some bytes) :
    join (word / 262144 :: word / 4096 % 64 :: word / 64 % 64 :: word % 64 :: values) =
      some (a :: b :: c :: bytes) := by
  have same : word / 262144 * 262144 + word / 4096 % 64 * 4096 + word / 64 % 64 * 64 +
      word % 64 = word := by omega
  have second := b.toNat_lt
  have third := c.toNat_lt
  have cut : word / 65536 = a.toNat ∧ word / 256 % 256 = b.toNat ∧ word % 256 = c.toNat := by
    omega
  simp only [join, joined, same, cut]
  change some (UInt8.ofNat a.toNat :: UInt8.ofNat b.toNat :: UInt8.ofNat c.toNat :: bytes) = _
  simp only [UInt8.ofNat_toNat]

theorem join_pair (a b : UInt8) {word : Nat} (whole : word = a.toNat * 1024 + b.toNat * 4) :
    join [word / 4096, word / 64 % 64, word % 64] = some [a, b] := by
  have same : word / 4096 * 4096 + word / 64 % 64 * 64 + word % 64 = word := by omega
  have second := b.toNat_lt
  have cut : word % 64 % 4 = 0 ∧ word / 4 / 256 = a.toNat ∧ word / 4 % 256 = b.toNat := by
    omega
  simp only [join, same, cut, if_true]
  change some [UInt8.ofNat a.toNat, UInt8.ofNat b.toNat] = _
  simp only [UInt8.ofNat_toNat]

theorem join_single (a : UInt8) : join [a.toNat / 4, a.toNat % 4 * 16] = some [a] := by
  have cut : a.toNat % 4 * 16 % 16 = 0 ∧
      (a.toNat / 4 * 64 + a.toNat % 4 * 16) / 16 = a.toNat := by
    omega
  simp only [join, cut, if_true]
  change some [UInt8.ofNat a.toNat] = _
  rw [UInt8.ofNat_toNat]

/-- The text stands for values of six bits, and these hold the bytes. -/
theorem values_encode (bytes : List UInt8) :
    ∃ values, encode bytes = values.map symbol ∧ (∀ value ∈ values, value < 64) ∧
      join values = some bytes := by
  fun_induction encode bytes with
  | case1 a b c rest word ih =>
      obtain ⟨values, written, small, joined⟩ := ih
      have first := a.toNat_lt
      have second := b.toNat_lt
      have third := c.toNat_lt
      refine ⟨_, by rw [written]; rfl, ?_, join_triple a b c rfl joined⟩
      simp only [List.forall_mem_cons]
      exact ⟨by omega, by omega, by omega, by omega, small⟩
  | case2 a b word =>
      have first := a.toNat_lt
      have second := b.toNat_lt
      refine ⟨_, rfl, ?_, join_pair a b rfl⟩
      simp only [List.forall_mem_cons]
      exact ⟨by omega, by omega, by omega, List.forall_mem_nil _⟩
  | case3 a =>
      have first := a.toNat_lt
      refine ⟨_, rfl, ?_, join_single a⟩
      simp only [List.forall_mem_cons]
      exact ⟨by omega, by omega, List.forall_mem_nil _⟩
  | case4 => exact ⟨[], rfl, List.forall_mem_nil _, rfl⟩

theorem decode_encode (bytes : List UInt8) : decode (encode bytes) = some bytes := by
  obtain ⟨values, written, small, joined⟩ := values_encode bytes
  have read : (values.map symbol).mapM value? = some values :=
    mapM_read_map_write fun value inValues => value?_symbol (small value inValues)
  rw [decode, written, read]
  exact joined

theorem length_encode (bytes : List UInt8) :
    (encode bytes).length = (8 * bytes.length + 5) / 6 := by
  fun_induction encode bytes with
  | case1 a b c rest word ih =>
      simp only [List.length_cons, ih]
      omega
  | case2 | case3 | case4 => simp

theorem symbol_mem_alphabet (value : Nat) : symbol value ∈ alphabet := by
  rw [symbol, List.getD_eq_getElem?_getD]
  cases found : alphabet[value]? with
  | none => decide
  | some character => exact List.mem_of_getElem? found

theorem encode_subset_alphabet (bytes : List UInt8) : encode bytes ⊆ alphabet := by
  obtain ⟨values, written, -⟩ := values_encode bytes
  intro character inText
  rw [written] at inText
  obtain ⟨value, -, rfl⟩ := List.mem_map.mp inText
  exact symbol_mem_alphabet value

end Text.Base64

/-! ### Hash strings -/

namespace Phc

/-- The characters that part a string into fields, parameters, and names and values. -/
def marks : List Char :=
  ['$', ',', '=']

theorem not_mem_of_all {allowed : Char → Bool} {text : List Char} {mark : Char}
    (excluded : marks.all (fun mark => !allowed mark) = true) (isMark : mark ∈ marks)
    (allAllowed : text.all allowed = true) : mark ∉ text := by
  intro inText
  have included := List.all_eq_true.mp allAllowed mark inText
  have notIncluded := List.all_eq_true.mp excluded mark isMark
  rw [included] at notIncluded
  cases notIncluded

theorem not_mem_of_isName {text : List Char} {mark : Char} (isMark : mark ∈ marks)
    (named : isName text = true) : mark ∉ text := by
  simp only [isName, Bool.and_eq_true] at named
  exact not_mem_of_all (by decide) isMark named.2

theorem not_mem_of_isValue {text : List Char} {mark : Char} (isMark : mark ∈ marks)
    (allowed : isValue text = true) : mark ∉ text := by
  simp only [isValue, Bool.and_eq_true] at allowed
  exact not_mem_of_all (by decide) isMark allowed.2

theorem not_mem_decimal {number : Nat} {mark : Char} (isMark : mark ∈ marks) :
    mark ∉ decimal number := by
  have digits : (decimal number).all isDigit = true :=
    List.all_eq_true.mpr fun _ => isDigit_of_mem_decimal
  exact not_mem_of_all (by decide) isMark digits

theorem isValueCharacter_of_isDigit {character : Char} (digit : isDigit character = true) :
    isValueCharacter character = true := by
  simp [isValueCharacter, digit]

theorem isValue_decimal {number : Nat} (short : (decimal number).length ≤ 64) :
    isValue (decimal number) = true := by
  simp only [isValue, Bool.and_eq_true, decide_eq_true_eq, List.all_eq_true]
  exact ⟨short, fun _ inDigits => isValueCharacter_of_isDigit (isDigit_of_mem_decimal inDigits)⟩

theorem isValue_encode {bytes : List UInt8} (short : bytes.length ≤ 48) :
    isValue (Base64.encode bytes) = true := by
  have allowed : Base64.alphabet.all isValueCharacter = true := by decide
  simp only [isValue, Bool.and_eq_true, decide_eq_true_eq, List.all_eq_true]
  refine ⟨?_, fun character inText =>
    List.all_eq_true.mp allowed character (Base64.encode_subset_alphabet bytes inText)⟩
  rw [Base64.length_encode]
  omega

theorem number?_decimal {number : Nat} (small : number < Nat.pow 2 32) :
    number? (decimal number) = some number := by
  rw [number?, readNatural_decimal]
  simp [small]

structure IsComplete (phc : Phc) : Prop where
  named : isName phc.algorithm = true
  versioned : ∃ version < Nat.pow 2 32, phc.version = some version
  parametrized : phc.parameters ≠ []
  allowed : ∀ parameter ∈ phc.parameters,
    isName parameter.1 = true ∧ isValue parameter.2 = true
  short : (parametersText phc.parameters).length ≤ 127
  salted : ∃ salt, phc.salt = some salt ∧ 4 ≤ salt.length ∧ isValue salt = true
  hashed : ∃ hash, phc.hash = some hash ∧ 10 ≤ hash.length ∧ hash.length ≤ 64

def entry (parameter : List Char × List Char) : List Char :=
  parameter.1 ++ '=' :: parameter.2

theorem parametersText_eq (parameters : List (List Char × List Char)) :
    parametersText parameters = [','].intercalate (parameters.map entry) := rfl

theorem parameter?_entry {parameter : List Char × List Char}
    (named : isName parameter.1 = true) (allowed : isValue parameter.2 = true) :
    parameter? (entry parameter) = some parameter := by
  have joined : entry parameter = ['='].intercalate [parameter.1, parameter.2] := by
    simp [entry, List.intercalate]
  have free : ∀ part ∈ [parameter.1, parameter.2], '=' ∉ part := by
    simp only [List.forall_mem_cons]
    exact ⟨not_mem_of_isName (by decide) named, not_mem_of_isValue (by decide) allowed,
      List.forall_mem_nil _⟩
  rw [parameter?, joined, pieces_intercalate (List.cons_ne_nil _ _) free]
  simp [named, allowed]

theorem not_mem_entry {parameter : List Char × List Char} {mark : Char}
    (isMark : mark ∈ marks) (different : mark ≠ '=') (named : isName parameter.1 = true)
    (allowed : isValue parameter.2 = true) : mark ∉ entry parameter := by
  simp only [entry, List.mem_append, List.mem_cons, not_or]
  exact ⟨not_mem_of_isName isMark named, different, not_mem_of_isValue isMark allowed⟩

namespace IsComplete

variable {phc : Phc} (complete : phc.IsComplete)

include complete

theorem entry_free {mark : Char} (isMark : mark ∈ marks) (different : mark ≠ '=') :
    ∀ written ∈ phc.parameters.map entry, mark ∉ written := by
  intro written inEntries
  obtain ⟨parameter, inParameters, rfl⟩ := List.mem_map.mp inEntries
  obtain ⟨named, allowed⟩ := complete.allowed parameter inParameters
  exact not_mem_entry isMark different named allowed

theorem pieces_parametersText :
    pieces ',' (parametersText phc.parameters) = phc.parameters.map entry := by
  have someEntries : phc.parameters.map entry ≠ [] :=
    mt List.map_eq_nil_iff.mp complete.parametrized
  rw [parametersText_eq]
  exact pieces_intercalate someEntries (complete.entry_free (by decide) (by decide))

theorem dollar_not_mem_parametersText : '$' ∉ parametersText phc.parameters := by
  have apart : ∀ character ∈ parametersText phc.parameters,
      character ≠ ',' → character ≠ '$' := by
    rw [← forall_mem_pieces_iff, complete.pieces_parametersText]
    rintro written inEntries character inWritten rfl
    exact complete.entry_free (by decide) (by decide) written inEntries inWritten
  exact fun inText => apart '$' inText (by decide) rfl

theorem equals_mem_parametersText : '=' ∈ parametersText phc.parameters := by
  obtain ⟨parameter, inParameters⟩ := List.exists_mem_of_ne_nil _ complete.parametrized
  by_contra absent
  have apart : ∀ character ∈ parametersText phc.parameters,
      character ≠ ',' → character ≠ '=' := by
    rintro character inText - rfl
    exact absent inText
  rw [← forall_mem_pieces_iff, complete.pieces_parametersText] at apart
  have inEntry : '=' ∈ entry parameter := List.mem_append_right _ List.mem_cons_self
  exact apart _ (List.mem_map_of_mem inParameters) '=' inEntry rfl

theorem takeParameters_text (fields : List (List Char)) :
    takeParameters (parametersText phc.parameters :: fields) = some (phc.parameters, fields) := by
  have read : (phc.parameters.map entry).mapM parameter? = some phc.parameters :=
    mapM_read_map_write fun parameter inParameters =>
      parameter?_entry (complete.allowed parameter inParameters).1
        (complete.allowed parameter inParameters).2
  simp [takeParameters, complete.equals_mem_parametersText, complete.short,
    complete.pieces_parametersText, read]

theorem pieces_text {version : Nat} {salt : List Char} {hash : List UInt8}
    (versioned : phc.version = some version) (salted : phc.salt = some salt)
    (saltAllowed : isValue salt = true) (hashed : phc.hash = some hash) :
    pieces '$' phc.text =
      [[], phc.algorithm, "v=".toList ++ decimal version, parametersText phc.parameters, salt,
        Base64.encode hash] := by
  have joined : phc.text = ['$'].intercalate
      [[], phc.algorithm, "v=".toList ++ decimal version, parametersText phc.parameters, salt,
        Base64.encode hash] := by
    simp [text, versioned, salted, hashed, complete.parametrized, List.intercalate]
  have noDollarInVersion : '$' ∉ "v=".toList ++ decimal version := by
    simp only [List.mem_append, not_or]
    exact ⟨by decide, not_mem_decimal (by decide)⟩
  have noDollarInHash : '$' ∉ Base64.encode hash := by
    intro inText
    exact absurd (Base64.encode_subset_alphabet hash inText) (by decide)
  rw [joined]
  refine pieces_intercalate (List.cons_ne_nil _ _) ?_
  simp only [List.forall_mem_cons]
  exact ⟨List.not_mem_nil, not_mem_of_isName (by decide) complete.named, noDollarInVersion,
    complete.dollar_not_mem_parametersText, not_mem_of_isValue (by decide) saltAllowed,
    noDollarInHash, List.forall_mem_nil _⟩

end IsComplete

theorem takeVersion_text {version : Nat} (small : version < Nat.pow 2 32)
    (fields : List (List Char)) :
    takeVersion (("v=".toList ++ decimal version) :: fields) = some (some version, fields) := by
  have noComma : ',' ∉ decimal version := not_mem_decimal (by decide)
  -- With a comma in it the field would be taken for parameters.
  change (if (decimal version).contains ',' then _ else _) = _
  simp [noComma, number?_decimal small]

theorem takeSalt_text {salt : List Char} (long : 4 ≤ salt.length)
    (allowed : isValue salt = true) (fields : List (List Char)) :
    takeSalt (salt :: fields) = some (some salt, fields) := by
  simp [takeSalt, long, allowed]

theorem takeHash_text {hash : List UInt8} (long : 10 ≤ hash.length) (short : hash.length ≤ 64)
    (fields : List (List Char)) :
    takeHash (Base64.encode hash :: fields) = some (some hash, fields) := by
  simp [takeHash, Base64.decode_encode, long, short]

theorem parse_text {phc : Phc} (complete : phc.IsComplete) : parse phc.text = some phc := by
  obtain ⟨version, small, versioned⟩ := complete.versioned
  obtain ⟨salt, salted, saltLong, saltAllowed⟩ := complete.salted
  obtain ⟨hash, hashed, hashLong, hashShort⟩ := complete.hashed
  rw [parse, complete.pieces_text versioned salted saltAllowed hashed]
  simp only [complete.named, takeVersion_text small, complete.takeParameters_text,
    takeSalt_text saltLong saltAllowed, takeHash_text hashLong hashShort, if_true,
    Option.bind_eq_bind, Option.bind_some]
  rw [← versioned, ← salted, ← hashed]

end Phc

/-! ### What a hash spells out -/

namespace Password

def parameters (cost : HashingCost) : List (List Char × List Char) :=
  [(['m'], decimal cost.memory.toNat), (['t'], decimal cost.iterations.toNat),
    (['p'], decimal cost.parallelism.toNat)]

def fields (cost : HashingCost) (salt : Salt) (digest : List UInt8) : Phc :=
  { algorithm := "argon2id".toList
    version := some 19
    parameters := parameters cost
    salt := some (Base64.encode salt.toList)
    hash := some digest }

theorem length_decimal_word (word : UInt32) : (decimal word.toNat).length ≤ 10 := by
  have bounded := word.toNat_lt
  refine (Nat.length_toDigits_le_iff (by omega) (by omega)).mpr ?_
  omega

theorem isValue_word (word : UInt32) : Phc.isValue (decimal word.toNat) = true :=
  Phc.isValue_decimal ((length_decimal_word word).trans (by omega))

theorem allowed_parameters (cost : HashingCost) :
    ∀ parameter ∈ parameters cost,
      Phc.isName parameter.1 = true ∧ Phc.isValue parameter.2 = true := by
  rw [parameters, List.forall_mem_cons, List.forall_mem_cons, List.forall_mem_cons]
  exact ⟨⟨rfl, isValue_word _⟩, ⟨rfl, isValue_word _⟩, ⟨rfl, isValue_word _⟩,
    List.forall_mem_nil _⟩

theorem parametersText_parameters (cost : HashingCost) :
    Phc.parametersText (parameters cost) =
      'm' :: '=' :: decimal cost.memory.toNat ++ ',' :: 't' :: '=' ::
        decimal cost.iterations.toNat ++ ',' :: 'p' :: '=' :: decimal cost.parallelism.toNat := by
  simp [Phc.parametersText, parameters, List.intercalate]

theorem isComplete_fields (cost : HashingCost) (salt : Salt) {digest : List UInt8}
    (sized : digest.length = hashLength) : (fields cost salt digest).IsComplete where
  named := rfl
  versioned := ⟨19, by decide, rfl⟩
  parametrized := List.cons_ne_nil _ _
  allowed := allowed_parameters cost
  short := by
    have memory := length_decimal_word cost.memory
    have iterations := length_decimal_word cost.iterations
    have parallelism := length_decimal_word cost.parallelism
    change (Phc.parametersText (parameters cost)).length ≤ 127
    rw [parametersText_parameters]
    simp only [List.length_append, List.length_cons]
    omega
  salted := by
    refine ⟨_, rfl, ?_, Phc.isValue_encode ?_⟩
    · simp [Base64.length_encode]
    · simp
  hashed := ⟨digest, rfl, by simp [sized, hashLength], by simp [sized, hashLength]⟩

end Password

namespace PasswordHash

/-! ### Requests -/

theorem word?_decimal (word : UInt32) : word? (decimal word.toNat) = some word := by
  rw [word?, Phc.number?_decimal word.toNat_lt, Option.map_some, UInt32.ofNat_toNat]

/-- Every part of the cost is given, so it does not matter what reading starts from. -/
theorem foldlM_set?_parameters (start : Parameters) (cost : HashingCost) :
    (Password.parameters cost).foldlM Parameters.set? start = some { start with cost } := by
  simp [Password.parameters, Parameters.set?, word?_decimal]

theorem request?_fields {cost : HashingCost} (accepted : cost.check = .ok ())
    (salt : Password.Salt) {digest : List UInt8} (sized : digest.length = Password.hashLength)
    (candidate : Password) :
    request? (Password.fields cost salt digest) (Base64.encode salt.toList) digest candidate =
      some (candidate.request cost salt) := by
  have parameters : (Password.fields cost salt digest).parameters.foldlM Parameters.set?
      defaultParameters = some { defaultParameters with cost } :=
    foldlM_set?_parameters defaultParameters cost
  have variant : variant? (Password.fields cost salt digest).algorithm = some .id := rfl
  have version : version? (Password.fields cost salt digest).version = some .v19 := rfl
  have usable : (HashingCost.check cost).isOk = true ∧ shortestSalt ≤ salt.toList.length := by
    simp [accepted, Except.isOk, Except.toBool, shortestSalt]
  simp only [request?, parameters, variant, version, Base64.decode_encode, Option.bind_eq_bind,
    Option.bind_some, usable, and_self, if_true, sized]
  rfl

end PasswordHash

/-! ### Lengths of digests -/

namespace Blake2b

theorem length_littleEndian (count number : Nat) : (littleEndian count number).length = count := by
  induction count generalizing number with
  | zero => rfl
  | succ count ih => rw [littleEndian, List.length_cons, ih]

theorem length_bytesOfWords (words : List UInt64) :
    (bytesOfWords words).length = 8 * words.length := by
  simp [bytesOfWords, List.length_flatMap, bytesOfWord, length_littleEndian, Nat.mul_comm]

theorem length_hash {length : Nat} (short : length ≤ 64) (message : List UInt8) :
    (hash length message).length = length := by
  rw [hash, List.length_take, length_bytesOfWords, Vector.length_toList]
  omega

end Blake2b

namespace Argon2

theorem length_derive {request : Request} (short : request.length ≤ 64) :
    (derive request).length = request.length := by
  rw [derive, longHash, if_pos short, Blake2b.length_hash short]

end Argon2

/-! ### Making and checking hashes -/

namespace PasswordHash

def spelled (cost : HashingCost) (salt : Password.Salt) (digest : List UInt8) : PasswordHash where
  phc := String.ofList
    ("$argon2id$v=19$m=".toList ++ decimal cost.memory.toNat ++
      ",t=".toList ++ decimal cost.iterations.toNat ++
      ",p=".toList ++ decimal cost.parallelism.toNat ++
      '$' :: Base64.encode salt.toList ++ '$' :: Base64.encode digest)

theorem spelled_eq (cost : HashingCost) (salt : Password.Salt) (digest : List UInt8) :
    spelled cost salt digest = ⟨String.ofList (Password.fields cost salt digest).text⟩ := by
  have parametrized : Password.parameters cost ≠ [] := List.cons_ne_nil _ _
  have version : decimal 19 = "19".toList := by decide
  unfold Phc.text Password.fields spelled
  simp only [parametrized, if_false, Option.map_some, Option.getD_some,
    Password.parametersText_parameters, version]
  simp

theorem verify_spelled {derive : Derivation} {cost : HashingCost} {digest : List UInt8}
    (accepted : cost.check = .ok ()) (sized : digest.length = Password.hashLength)
    (salt : Password.Salt) (candidate : Password) :
    (spelled cost salt digest).verify derive candidate =
      .ok (derive (candidate.request cost salt) == digest) := by
  have parsed : Phc.parse (spelled cost salt digest).phc.toList =
      some (Password.fields cost salt digest) := by
    rw [spelled_eq, String.toList_ofList]
    exact Phc.parse_text (Password.isComplete_fields cost salt sized)
  have salted : (Password.fields cost salt digest).salt = some (Base64.encode salt.toList) := rfl
  have hashed : (Password.fields cost salt digest).hash = some digest := rfl
  simp only [verify, parsed, salted, hashed, request?_fields accepted salt sized candidate]

/-- The hash fits the password, and any other candidate just if the derivation cannot tell it
from the password. -/
structure IsOf (hash : PasswordHash) (derive : Derivation) (cost : HashingCost)
    (salt : Password.Salt) (password : Password) : Prop where
  written : hash = spelled cost salt (derive (password.request cost salt))
  fits : hash.verify derive password = .ok true
  judges : ∀ candidate : Password, ∃ answer, hash.verify derive candidate = .ok answer ∧
    (answer = true ↔
      derive (candidate.request cost salt) = derive (password.request cost salt))

end PasswordHash

namespace Password

structure Hashes (derive : Derivation) (cost : HashingCost) (salt : Salt) (password : Password) :
    Prop where
  accepted : cost.check = .ok () → ∃ hash, password.hash derive cost salt = .ok hash ∧
    hash.IsOf derive cost salt password
  refused : ∀ error, cost.check = .error error →
    password.hash derive cost salt = .error (.passwordHashing error.message)

theorem hash_of_accepted {derive : Derivation} {cost : HashingCost} (accepted : cost.check = .ok ())
    (salt : Salt) (password : Password) :
    password.hash derive cost salt =
      .ok (.spelled cost salt (derive (password.request cost salt))) := by
  rw [hash, accepted, PasswordHash.spelled_eq]
  rfl

/-- A derivation gives as many bytes as the hash is to have. -/
theorem hashes {derive : Derivation}
    (sized : ∀ request : Argon2.Request, request.length = hashLength →
      (derive request).length = hashLength)
    (cost : HashingCost) (salt : Salt) (password : Password) :
    Hashes derive cost salt password := by
  constructor
  · intro accepted
    have full := sized (password.request cost salt) rfl
    refine ⟨_, hash_of_accepted accepted salt password, rfl, ?_, ?_⟩
    · rw [PasswordHash.verify_spelled accepted full, beq_self_eq_true]
    · intro candidate
      exact ⟨_, PasswordHash.verify_spelled accepted full salt candidate, beq_iff_eq⟩
  · intro error refused
    rw [hash, refused]

/-- Argon2 itself is such a derivation. -/
theorem hashes_with_argon2 :
    let derive : Derivation := Argon2.derive
    let cost : HashingCost := { memory := 8, iterations := 1, parallelism := 1 }
    let meagre : HashingCost := { memory := 7, iterations := 1, parallelism := 1 }
    let salt : Salt := Vector.replicate 16 0
    let password : Password := ⟨"hunter2", by decide⟩
    (∀ request : Argon2.Request, request.length = hashLength →
      (derive request).length = hashLength) ∧
    (∃ hash, password.hash derive cost salt = .ok hash ∧ hash.IsOf derive cost salt password) ∧
    password.hash derive meagre salt =
      .error (.passwordHashing "memory cost is too small") := by
  intro derive cost meagre salt password
  have sized : ∀ request : Argon2.Request, request.length = hashLength →
      (derive request).length = hashLength := by
    intro request length
    exact (Argon2.length_derive (by rw [length]; decide)).trans length
  exact ⟨sized, (hashes sized cost salt password).accepted rfl,
    (hashes sized meagre salt password).refused .memoryTooSmall rfl⟩

end Password

end Enrolment
