/-
What an environment makes of a policy. Each variable that is set has to hold a numeral of its
range, and what they set has to keep within the bounds of a usable policy; otherwise the first
variable that cannot be read is named with its text, or the first bound that is broken.
-/

import Enrolment.Policy
import Enrolment.Proofs.Cutting
import Enrolment.Proofs.Faults
import Mathlib.Data.List.Forall2
import Mathlib.Data.Nat.Digits.Defs

namespace Enrolment

open Text Time

/-! ### Numerals -/

namespace Text

structure IsDigits (text : List Char) : Prop where
  nonempty : text ≠ []
  decimal : ∀ character ∈ text, '0' ≤ character ∧ character ≤ '9'

def decimalValue (digits : List Char) : Nat :=
  Nat.ofDigits 10 (digits.reverse.map fun digit => digit.toNat - 48)

inductive IsNumeral (signed : Bool) : List Char → Int → Prop
  | plain {digits : List Char} (isDigits : IsDigits digits) :
      IsNumeral signed digits (decimalValue digits)
  | plus {digits : List Char} (isDigits : IsDigits digits) :
      IsNumeral signed ('+' :: digits) (decimalValue digits)
  | minus {digits : List Char} (negative : signed = true) (isDigits : IsDigits digits) :
      IsNumeral signed ('-' :: digits) (-decimalValue digits)

theorem isDigit_iff {character : Char} :
    isDigit character = true ↔ '0' ≤ character ∧ character ≤ '9' := by
  simp [isDigit]

theorem isDigits_iff {text : List Char} :
    IsDigits text ↔ text ≠ [] ∧ text.all isDigit = true := by
  simp only [List.all_eq_true, isDigit_iff]
  exact ⟨fun isDigits => ⟨isDigits.nonempty, isDigits.decimal⟩, fun digits => ⟨digits.1, digits.2⟩⟩

theorem valueOfDigits_eq (digits : List Char) : valueOfDigits digits = decimalValue digits := by
  induction digits using List.reverseRecOn with
  | nil => rfl
  | append_singleton front last ih =>
      rw [valueOfDigits] at ih ⊢
      rw [Nat.ofDigitChars_append, ih, decimalValue, decimalValue, List.reverse_append,
        List.reverse_singleton, List.singleton_append, List.map_cons, Nat.ofDigits_cons]
      exact Nat.add_comm _ _

theorem readNatural_eq_some_iff {text : List Char} {value : Nat} :
    readNatural text = some value ↔ IsDigits text ∧ value = decimalValue text := by
  rw [isDigits_iff, readNatural, Option.ite_none_right_eq_some, Option.some_inj,
    valueOfDigits_eq, eq_comm (a := value)]

theorem not_isDigits_of_sign {sign : Char} {digits : List Char} (isSign : isDigit sign = false) :
    ¬ IsDigits (sign :: digits) := by
  intro isDigits
  have digit := isDigit_iff.mpr (isDigits.decimal sign List.mem_cons_self)
  rw [isSign] at digit
  cases digit

theorem readInteger_eq_some_iff {signed : Bool} {text : List Char} {value : Int} :
    readInteger signed text = some value ↔ IsNumeral signed text value := by
  unfold readInteger
  split
  · next digits =>
      rw [Option.map_eq_some_iff]
      constructor
      · rintro ⟨size, read, rfl⟩
        obtain ⟨isDigits, rfl⟩ := readNatural_eq_some_iff.mp read
        exact .plus isDigits
      · intro numeral
        cases numeral with
        | plain isDigits => exact absurd isDigits (not_isDigits_of_sign rfl)
        | plus isDigits => exact ⟨_, readNatural_eq_some_iff.mpr ⟨isDigits, rfl⟩, rfl⟩
  · next digits =>
      rw [Option.ite_none_right_eq_some, Option.map_eq_some_iff]
      constructor
      · rintro ⟨negative, size, read, rfl⟩
        obtain ⟨isDigits, rfl⟩ := readNatural_eq_some_iff.mp read
        exact .minus negative isDigits
      · intro numeral
        cases numeral with
        | plain isDigits => exact absurd isDigits (not_isDigits_of_sign rfl)
        | minus negative isDigits =>
            exact ⟨negative, _, readNatural_eq_some_iff.mpr ⟨isDigits, rfl⟩, rfl⟩
  · next noPlus noMinus =>
      rw [Option.map_eq_some_iff]
      constructor
      · rintro ⟨size, read, rfl⟩
        obtain ⟨isDigits, rfl⟩ := readNatural_eq_some_iff.mp read
        exact .plain isDigits
      · intro numeral
        cases numeral with
        | plain isDigits => exact ⟨_, readNatural_eq_some_iff.mpr ⟨isDigits, rfl⟩, rfl⟩
        | plus isDigits => exact absurd rfl (noPlus _)
        | minus negative isDigits => exact absurd rfl (noMinus _)

theorem IsNumeral.nonneg {text : List Char} {value : Int} (numeral : IsNumeral false text value) :
    0 ≤ value := by
  cases numeral with
  | plain | plus => exact Int.natCast_nonneg _
  | minus negative => cases negative

end Text

/-! ### Entries -/

/-- An entry of the environment that holds a whole number of units, and how large that number
can be on either side of zero. -/
structure Entry where
  name : String
  signed : Bool
  greatest : Nat
  unit : Nat

namespace Entry

inductive Reads (entry : Entry) (text : String) : Int → Prop
  | numeral {core : List Char} {number : Int} (stripped : Stripped text.toList core)
      (numeral : IsNumeral entry.signed core number)
      (inRange : number.natAbs ≤ entry.greatest) :
      Reads entry text (number * entry.unit)

inductive Gives (entry : Entry) (environment : Environment) (default : Int) : Int → Prop
  | unset (absent : environment.text? entry.name = none) :
      Gives entry environment default default
  | set {text : String} {worth : Int} (given : environment.text? entry.name = some text)
      (reads : entry.Reads text worth) : Gives entry environment default worth

/-- A text that cannot be read is shown as it is, blanks and all. -/
inductive Fault (environment : Environment) (entry : Entry) : PolicyError → Prop
  | unreadable {text : String} (given : environment.text? entry.name = some text)
      (unreadable : ∀ worth, ¬ entry.Reads text worth) :
      Fault environment entry (.invalidValue entry.name text)

structure ReadBy {α : Type} (entry : Entry) (read : List Char → Option α)
    (worth : α → Int) : Prop where
  injective : Function.Injective worth
  reads_iff : ∀ core held, (∃ setting, read core = some setting ∧ worth setting = held) ↔
    ∃ number, IsNumeral entry.signed core number ∧ number.natAbs ≤ entry.greatest ∧
      held = number * entry.unit

section Setting

variable {α : Type} {entry : Entry} {read : List Char → Option α} {worth : α → Int}

theorem ReadBy.reads {text : String} (readBy : entry.ReadBy read worth) {held : Int} :
    entry.Reads text held ↔
      ∃ setting, read (strip text.toList) = some setting ∧ worth setting = held := by
  rw [readBy.reads_iff]
  constructor
  · rintro ⟨stripped, numeral, inRange⟩
    rw [← stripped_iff.mp stripped]
    exact ⟨_, numeral, inRange, rfl⟩
  · rintro ⟨number, numeral, inRange, rfl⟩
    exact .numeral (stripped_strip _) numeral inRange

theorem setting_eq_ok_iff (readBy : entry.ReadBy read worth) {environment : Environment}
    {default setting : α} :
    environment.setting entry.name default read = .ok setting ↔
      entry.Gives environment (worth default) (worth setting) := by
  generalize held : worth setting = value
  cases given : environment.text? entry.name with
  | none =>
      simp only [Environment.setting, given]
      constructor
      · intro kept
        obtain rfl := Except.ok.inj kept
        rw [← held]
        exact .unset given
      · intro gives
        cases gives with
        | unset => rw [readBy.injective held]
        | set other => rw [given] at other; cases other
  | some text =>
      simp only [Environment.setting, given]
      constructor
      · intro kept
        refine .set given (readBy.reads.mpr ?_)
        split at kept
        · next found =>
            obtain rfl := Except.ok.inj kept
            exact ⟨_, found, held⟩
        · cases kept
      · intro gives
        cases gives with
        | unset absent => rw [given] at absent; cases absent
        | set other reads =>
            rw [given] at other
            obtain rfl := Option.some.inj other
            obtain ⟨found, read, same⟩ := readBy.reads.mp reads
            rw [← readBy.injective (same.trans held.symm), read]

theorem setting_eq_error_iff (readBy : entry.ReadBy read worth) {environment : Environment}
    {default : α} {error : PolicyError} :
    environment.setting entry.name default read = .error error ↔
      Fault environment entry error := by
  constructor
  · intro failed
    cases given : environment.text? entry.name with
    | none => simp only [Environment.setting, given] at failed; cases failed
    | some text =>
        simp only [Environment.setting, given] at failed
        split at failed
        · cases failed
        · next none =>
            obtain rfl := Except.error.inj failed
            refine .unreadable given ?_
            intro held reads
            obtain ⟨setting, read, _⟩ := readBy.reads.mp reads
            rw [none] at read
            cases read
  · rintro ⟨given, unreadable⟩
    next text =>
      simp only [Environment.setting, given]
      cases found : read (strip text.toList) with
      | none => rfl
      | some setting => exact absurd (readBy.reads.mpr ⟨setting, found, rfl⟩) (unreadable _)

theorem faultless_iff {environment : Environment} :
    (∀ error, ¬ Fault environment entry error) ↔ ∀ text,
      environment.text? entry.name = some text → ∃ worth, entry.Reads text worth := by
  constructor
  · intro faultless text given
    by_contra unreadable
    exact faultless _ (.unreadable given (not_exists.mp unreadable))
  · rintro readable _ ⟨given, unreadable⟩
    obtain ⟨worth, reads⟩ := readable _ given
    exact unreadable worth reads

end Setting

end Entry

namespace Policy

/-! ### Readers -/

theorem readBelow_eq_some_iff {limit value : Nat} {text : List Char} :
    readBelow limit text = some value ↔ IsNumeral false text value ∧ value < limit := by
  simp only [readBelow, Option.bind_eq_bind, Option.bind_eq_some_iff,
    readInteger_eq_some_iff, Option.ite_none_right_eq_some, Option.some_inj]
  constructor
  · rintro ⟨number, numeral, small, rfl⟩
    have whole := Int.toNat_of_nonneg numeral.nonneg
    rw [whole]
    exact ⟨numeral, by omega⟩
  · rintro ⟨numeral, small⟩
    exact ⟨value, numeral, Int.ofNat_lt.mpr small, Int.toNat_natCast value⟩

/-- A number of a range without a sign, in any type that holds these numbers. -/
theorem readBy_readBelow {α : Type} {toNat : α → Nat} {ofNat : Nat → α} {name : String}
    {limit greatest : Nat} (below : limit = greatest + 1) (injective : Function.Injective toNat)
    (toNat_ofNat : ∀ number ≤ greatest, toNat (ofNat number) = number) :
    Entry.ReadBy ⟨name, false, greatest, 1⟩ (fun text => (readBelow limit text).map ofNat)
      (fun setting => toNat setting) where
  injective := Nat.cast_injective.comp injective
  reads_iff core held := by
    simp only [Option.map_eq_some_iff, readBelow_eq_some_iff, below, Nat.lt_succ_iff]
    constructor
    · rintro ⟨_, ⟨number, ⟨numeral, inRange⟩, rfl⟩, rfl⟩
      refine ⟨number, numeral, inRange, ?_⟩
      rw [toNat_ofNat number inRange, Nat.cast_one, mul_one]
    · rintro ⟨number, numeral, inRange, rfl⟩
      obtain ⟨value, rfl⟩ := Int.eq_ofNat_of_zero_le numeral.nonneg
      refine ⟨ofNat value, ⟨value, ⟨numeral, inRange⟩, rfl⟩, ?_⟩
      rw [toNat_ofNat value inRange, Nat.cast_one, mul_one]

theorem nanos_injective : Function.Injective Duration.nanos := by
  rintro ⟨nanos, _⟩ ⟨_, _⟩ rfl
  rfl

theorem exists_ofSeconds?_iff {seconds held : Int} :
    (∃ span, Duration.ofSeconds? seconds = some span ∧ span.nanos = held) ↔
      seconds.natAbs ≤ 9223372036854775 ∧ held = seconds * nanosPerSecond := by
  have bounded : -Duration.longest ≤ seconds * nanosPerSecond ∧
      seconds * nanosPerSecond ≤ Duration.longest ↔ seconds.natAbs ≤ 9223372036854775 := by
    simp only [Duration.longest, nanosPerSecond]
    omega
  rw [← bounded, Duration.ofSeconds?, Duration.ofNanos?]
  constructor
  · rintro ⟨span, kept, rfl⟩
    split at kept
    · next inRange => exact ⟨inRange, by rw [← Option.some.inj kept]⟩
    · cases kept
  · rintro ⟨inRange, rfl⟩
    exact ⟨_, dif_pos inRange, rfl⟩

theorem readBy_readSeconds {name : String} :
    Entry.ReadBy ⟨name, true, 9223372036854775, nanosPerSecond⟩ readSeconds Duration.nanos where
  injective := nanos_injective
  reads_iff core held := by
    simp only [← exists_ofSeconds?_iff, readSeconds, Option.bind_eq_bind,
      Option.bind_eq_some_iff, readInteger_eq_some_iff]
    constructor
    · rintro ⟨span, ⟨number, numeral, read⟩, worth⟩
      exact ⟨number, numeral, span, read, worth⟩
    · rintro ⟨number, numeral, span, read, worth⟩
      exact ⟨span, ⟨number, numeral, read⟩, worth⟩

theorem readBy_readCount {name : String} :
    Entry.ReadBy ⟨name, false, 2 ^ 64 - 1, 1⟩ (readBelow (Nat.pow 2 64))
      (fun number : Nat => number) := by
  have readBy : Entry.ReadBy ⟨name, false, 2 ^ 64 - 1, 1⟩
      (fun text => (readBelow (Nat.pow 2 64) text).map id) (fun number => id number) :=
    readBy_readBelow rfl Function.injective_id fun _ _ => rfl
  simp only [Option.map_id_fun, id_eq] at readBy
  exact readBy

theorem readBy_readByte {name : String} :
    Entry.ReadBy ⟨name, false, 2 ^ 8 - 1, 1⟩
      (fun text => (readBelow (Nat.pow 2 8) text).map UInt8.ofNat) (fun byte => byte.toNat) :=
  readBy_readBelow rfl (fun _ _ => UInt8.toNat_inj.mp) fun _ inRange =>
    UInt8.toNat_ofNat_of_lt' (Nat.lt_succ_of_le inRange)

theorem readBy_readWord {name : String} :
    Entry.ReadBy ⟨name, false, 2 ^ 32 - 1, 1⟩ readWord (fun word => word.toNat) :=
  readBy_readBelow rfl (fun _ _ => UInt32.toNat_inj.mp) fun _ inRange =>
    UInt32.toNat_ofNat_of_lt' (Nat.lt_succ_of_le inRange)

/-! ### Reading -/

def settings (policy : Policy) : List (Entry × Int) :=
  [(⟨"REGISTRATION_CODE_LENGTH", false, 2 ^ 64 - 1, 1⟩, policy.codeLength),
    (⟨"REGISTRATION_CODE_TTL_SECS", true, 9223372036854775, nanosPerSecond⟩,
      policy.codeLifetime.nanos),
    (⟨"REGISTRATION_RESEND_COOLDOWN_SECS", true, 9223372036854775, nanosPerSecond⟩,
      policy.resendCooldown.nanos),
    (⟨"REGISTRATION_MAX_CODE_ATTEMPTS", false, 2 ^ 8 - 1, 1⟩, policy.maxAttempts.toNat),
    (⟨"REGISTRATION_ARGON2_MEMORY_KIB", false, 2 ^ 32 - 1, 1⟩, policy.hashing.memory.toNat),
    (⟨"REGISTRATION_ARGON2_ITERATIONS", false, 2 ^ 32 - 1, 1⟩,
      policy.hashing.iterations.toNat),
    (⟨"REGISTRATION_ARGON2_PARALLELISM", false, 2 ^ 32 - 1, 1⟩,
      policy.hashing.parallelism.toNat)]

def entries : List Entry :=
  defaults.settings.map Prod.fst

/-- Every setting is what its entry gives, or the default. -/
def SetBy (policy : Policy) (environment : Environment) : Prop :=
  List.Forall₂ (fun byDefault setting => byDefault.1.Gives environment byDefault.2 setting.2)
    defaults.settings policy.settings

def read (environment : Environment) : Except PolicyError Policy := do
  let codeLength ← environment.setting "REGISTRATION_CODE_LENGTH" defaults.codeLength
    (readBelow (Nat.pow 2 64))
  let codeLifetime ← environment.setting "REGISTRATION_CODE_TTL_SECS" defaults.codeLifetime
    readSeconds
  let resendCooldown ← environment.setting "REGISTRATION_RESEND_COOLDOWN_SECS"
    defaults.resendCooldown readSeconds
  let maxAttempts ← environment.setting "REGISTRATION_MAX_CODE_ATTEMPTS" defaults.maxAttempts
    fun text => (readBelow (Nat.pow 2 8) text).map UInt8.ofNat
  let memory ← environment.setting "REGISTRATION_ARGON2_MEMORY_KIB" defaults.hashing.memory
    readWord
  let iterations ← environment.setting "REGISTRATION_ARGON2_ITERATIONS"
    defaults.hashing.iterations readWord
  let parallelism ← environment.setting "REGISTRATION_ARGON2_PARALLELISM"
    defaults.hashing.parallelism readWord
  return { codeLength, codeLifetime, resendCooldown, maxAttempts,
           hashing := { memory, iterations, parallelism } }

theorem load_eq (environment : Environment) : load environment = do
    let policy ← read environment
    policy.validate
    return policy := by
  simp only [load, read, bind_assoc, pure_bind]

section Reading

variable {environment : Environment} {policy : Policy} {error : PolicyError}

theorem read_eq_ok_iff : read environment = .ok policy ↔ policy.SetBy environment := by
  simp only [SetBy, settings, List.forall₂_cons, List.forall₂_nil_left_iff, and_true,
    ← Entry.setting_eq_ok_iff readBy_readCount, ← Entry.setting_eq_ok_iff readBy_readSeconds,
    ← Entry.setting_eq_ok_iff readBy_readByte, ← Entry.setting_eq_ok_iff readBy_readWord,
    read, bind_eq_ok_iff]
  constructor
  · rintro ⟨_, length, _, lifetime, _, cooldown, _, attempts, _, memory, _, iterations, _,
      parallelism, built⟩
    obtain rfl := Except.ok.inj built
    exact ⟨length, lifetime, cooldown, attempts, memory, iterations, parallelism⟩
  · rintro ⟨length, lifetime, cooldown, attempts, memory, iterations, parallelism⟩
    exact ⟨_, length, _, lifetime, _, cooldown, _, attempts, _, memory, _, iterations, _,
      parallelism, rfl⟩

theorem read_eq_error_iff :
    read environment = .error error ↔ FirstOf (Entry.Fault environment) entries error :=
  bind_eq_error_iff (fun _ => Entry.setting_eq_error_iff readBy_readCount) fun _ =>
  bind_eq_error_iff (fun _ => Entry.setting_eq_error_iff readBy_readSeconds) fun _ =>
  bind_eq_error_iff (fun _ => Entry.setting_eq_error_iff readBy_readSeconds) fun _ =>
  bind_eq_error_iff (fun _ => Entry.setting_eq_error_iff readBy_readByte) fun _ =>
  bind_eq_error_iff (fun _ => Entry.setting_eq_error_iff readBy_readWord) fun _ =>
  bind_eq_error_iff (fun _ => Entry.setting_eq_error_iff readBy_readWord) fun _ =>
  bind_eq_error_iff (fun _ => Entry.setting_eq_error_iff readBy_readWord) fun _ =>
    pure_eq_error_iff

end Reading

/-! ### Bounds -/

structure Bound where
  holds : Prop
  error : PolicyError

inductive Bound.Fault (bound : Bound) : PolicyError → Prop
  | broken (broken : ¬ bound.holds) : Fault bound bound.error

/-- The bounds in the order in which they are checked. The memory for the lanes is worked out in a
word of 32 bits; where it outgrows the word, there are too many lanes for the last bound. -/
def bounds (policy : Policy) : List Bound :=
  [⟨1 ≤ policy.codeLength, .notPositive "code_length"⟩,
    ⟨0 < policy.codeLifetime.nanos, .notPositive "code_ttl"⟩,
    ⟨0 < policy.resendCooldown.nanos, .notPositive "resend_cooldown"⟩,
    ⟨policy.codeLifetime.nanos ≤ 86400 * nanosPerSecond, .tooLarge "code_ttl" 86400⟩,
    ⟨policy.resendCooldown.nanos ≤ 86400 * nanosPerSecond, .tooLarge "resend_cooldown" 86400⟩,
    ⟨1 ≤ policy.maxAttempts.toNat, .notPositive "max_code_attempts"⟩,
    ⟨8 ≤ policy.hashing.memory.toNat ∧
        8 * policy.hashing.parallelism.toNat % 2 ^ 32 ≤ policy.hashing.memory.toNat,
      .passwordHashing "memory cost is too small"⟩,
    ⟨1 ≤ policy.hashing.iterations.toNat, .passwordHashing "time cost is too small"⟩,
    ⟨1 ≤ policy.hashing.parallelism.toNat, .passwordHashing "not enough threads"⟩,
    ⟨policy.hashing.parallelism.toNat ≤ 16777215, .passwordHashing "too many threads"⟩]

structure IsUsable (policy : Policy) : Prop where
  codeLength : 1 ≤ policy.codeLength
  codeLifetime : 0 < policy.codeLifetime.nanos ∧
    policy.codeLifetime.nanos ≤ 86400 * nanosPerSecond
  resendCooldown : 0 < policy.resendCooldown.nanos ∧
    policy.resendCooldown.nanos ≤ 86400 * nanosPerSecond
  maxAttempts : 1 ≤ policy.maxAttempts.toNat
  iterations : 1 ≤ policy.hashing.iterations.toNat
  parallelism : 1 ≤ policy.hashing.parallelism.toNat ∧
    policy.hashing.parallelism.toNat ≤ 16777215
  memory : 8 * policy.hashing.parallelism.toNat ≤ policy.hashing.memory.toNat

section Bounds

variable {policy : Policy} {error : PolicyError}

theorem toNat_leastMemory (cost : HashingCost) :
    cost.leastMemory.toNat = 8 * cost.parallelism.toNat % 2 ^ 32 :=
  UInt32.toNat_mul 8 cost.parallelism

/-- For so few lanes the word is large enough. -/
theorem toNat_leastMemory_of_few {cost : HashingCost} (few : cost.parallelism.toNat < 2 ^ 29) :
    cost.leastMemory.toNat = 8 * cost.parallelism.toNat := by
  rw [toNat_leastMemory, Nat.mod_eq_of_lt (by omega)]

theorem isUsable_iff : policy.IsUsable ↔ ∀ bound ∈ policy.bounds, bound.holds := by
  simp only [bounds, List.forall_mem_cons]
  constructor
  · rintro ⟨length, lifetime, cooldown, attempts, iterations, parallelism, memory⟩
    have enough : 8 ≤ policy.hashing.memory.toNat := by omega
    rw [← toNat_leastMemory_of_few (by omega), toNat_leastMemory] at memory
    exact ⟨length, lifetime.1, cooldown.1, lifetime.2, cooldown.2, attempts, ⟨enough, memory⟩,
      iterations, parallelism.1, parallelism.2, List.forall_mem_nil _⟩
  · rintro ⟨length, lifetime, cooldown, lifetimeShort, cooldownShort, attempts, memory,
      iterations, someLane, lanes, _⟩
    rw [← toNat_leastMemory, toNat_leastMemory_of_few (by omega)] at memory
    exact ⟨length, ⟨lifetime, lifetimeShort⟩, ⟨cooldown, cooldownShort⟩, attempts, iterations,
      ⟨someLane, lanes⟩, memory.2⟩

theorem Bound.fault_iff {bound : Bound} : bound.Fault error ↔ ¬ bound.holds ∧ error = bound.error := by
  constructor
  · rintro ⟨broken⟩
    exact ⟨broken, rfl⟩
  · rintro ⟨broken, rfl⟩
    exact .broken broken

theorem Bound.faultless_iff {bound : Bound} : (∀ error, ¬ bound.Fault error) ↔ bound.holds := by
  simp only [Bound.fault_iff, not_and]
  constructor
  · intro faultless
    by_contra broken
    exact faultless _ broken rfl
  · intro holds error broken
    exact absurd holds broken

/-- A check in a row of checks, and the bound that it stands for. -/
theorem guard_eq_error_iff {condition holds : Prop} [Decidable condition] {cause : PolicyError}
    {rest : List Bound} {next : Except PolicyError Unit} (checks : condition ↔ ¬ holds)
    (later : next = .error error ↔ FirstOf Bound.Fault rest error) :
    (if condition then .error cause else next) = .error error ↔
      FirstOf Bound.Fault (⟨holds, cause⟩ :: rest) error := by
  rw [firstOf_cons_iff, ← later]
  simp only [Bound.fault_iff, ← checks]
  by_cases broken : condition
  · simp [broken, eq_comm]
  · simp [broken]

theorem check_raised (cost : HashingCost) :
    (match cost.check with
      | .error error => Except.error (PolicyError.passwordHashing error.message)
      | .ok () => .ok ()) =
    if cost.memory < 8 ∨ cost.memory < cost.leastMemory then
      .error (.passwordHashing "memory cost is too small")
    else if cost.iterations.toNat < 1 then .error (.passwordHashing "time cost is too small")
    else if cost.parallelism.toNat < 1 then .error (.passwordHashing "not enough threads")
    else if HashingCost.maxParallelism < cost.parallelism.toNat then
      .error (.passwordHashing "too many threads")
    else .ok () := by
  unfold HashingCost.check
  split_ifs
  all_goals rfl

/-- The checks of the hashing cost are the last ones. -/
theorem validate_eq : policy.validate =
    if policy.codeLength = 0 then .error (.notPositive "code_length")
    else if policy.codeLifetime ≤ Duration.zero then .error (.notPositive "code_ttl")
    else if policy.resendCooldown ≤ Duration.zero then .error (.notPositive "resend_cooldown")
    else if longestTimer < policy.codeLifetime then .error (.tooLarge "code_ttl" 86400)
    else if longestTimer < policy.resendCooldown then .error (.tooLarge "resend_cooldown" 86400)
    else if policy.maxAttempts = 0 then .error (.notPositive "max_code_attempts")
    else if policy.hashing.memory < 8 ∨ policy.hashing.memory < policy.hashing.leastMemory then
      .error (.passwordHashing "memory cost is too small")
    else if policy.hashing.iterations.toNat < 1 then
      .error (.passwordHashing "time cost is too small")
    else if policy.hashing.parallelism.toNat < 1 then
      .error (.passwordHashing "not enough threads")
    else if HashingCost.maxParallelism < policy.hashing.parallelism.toNat then
      .error (.passwordHashing "too many threads")
    else .ok () := by
  rw [← check_raised]
  rfl

theorem memory_lt_iff {cost : HashingCost} : cost.memory < 8 ∨ cost.memory < cost.leastMemory ↔
    ¬ (8 ≤ cost.memory.toNat ∧ 8 * cost.parallelism.toNat % 2 ^ 32 ≤ cost.memory.toNat) := by
  rw [UInt32.lt_iff_toNat_lt, UInt32.lt_iff_toNat_lt, toNat_leastMemory]
  change cost.memory.toNat < 8 ∨ _ ↔ _
  omega

theorem attempts_eq_zero_iff {attempts : UInt8} : attempts = 0 ↔ ¬ 1 ≤ attempts.toNat := by
  rw [← UInt8.toNat_inj, UInt8.toNat_zero]
  omega

theorem validate_eq_error_iff :
    policy.validate = .error error ↔ FirstOf Bound.Fault policy.bounds error := by
  rw [validate_eq, bounds]
  apply guard_eq_error_iff Nat.one_le_iff_ne_zero.not_left.symm
  apply guard_eq_error_iff Int.not_lt.symm
  apply guard_eq_error_iff Int.not_lt.symm
  apply guard_eq_error_iff Int.not_le.symm
  apply guard_eq_error_iff Int.not_le.symm
  apply guard_eq_error_iff attempts_eq_zero_iff
  apply guard_eq_error_iff memory_lt_iff
  apply guard_eq_error_iff Nat.not_le.symm
  apply guard_eq_error_iff Nat.not_le.symm
  apply guard_eq_error_iff Nat.not_le.symm
  exact iff_of_false nofun not_firstOf_nil

/-- Where the memory for the lanes outgrows the word, it is their number that is refused, unless an
earlier bound is broken. The bound on the memory goes by what is left in the word. -/
theorem validate_of_manyLanes (many : 2 ^ 29 ≤ policy.hashing.parallelism.toNat)
    (others : ∀ bound ∈ policy.bounds.dropLast, bound.holds) :
    policy.validate = .error (.passwordHashing "too many threads") := by
  have tooMany : ¬ policy.hashing.parallelism.toNat ≤ 16777215 := by omega
  rw [validate_eq_error_iff]
  exact firstOf_append (fun bound member => Bound.faultless_iff.mpr (others bound member))
    (.here (.broken tooMany) [])

-- The blocks for so many lanes come to 64 in the word.
example :
    let hashing : HashingCost := { memory := 64, iterations := 1, parallelism := 536870920 }
    validate { defaults with hashing } = .error (.passwordHashing "too many threads") := by
  rfl

theorem validate_eq_ok_iff : policy.validate = .ok () ↔ policy.IsUsable := by
  have passes_iff : (∃ value, policy.validate = .ok value) ↔
      ∀ bound ∈ policy.bounds, ∀ error, ¬ bound.Fault error :=
    exists_ok_iff fun _ => validate_eq_error_iff
  rw [Unique.exists_iff] at passes_iff
  simpa only [Bound.faultless_iff, ← isUsable_iff] using passes_iff

end Bounds

/-! ### Loading -/

structure Judged (environment : Environment) (result : Except PolicyError Policy) : Prop where
  loaded_iff : ∀ policy, result = .ok policy ↔ policy.SetBy environment ∧ policy.IsUsable
  failed_iff : ∀ error, result = .error error ↔
    FirstOf (Entry.Fault environment) entries error ∨
      ∃ policy : Policy, policy.SetBy environment ∧ FirstOf Bound.Fault policy.bounds error
  valid : ∀ policy, result = .ok policy → policy.validate = .ok ()
  /-- A policy is set as soon as all entries that are there can be read. -/
  set_iff : (∃ policy : Policy, policy.SetBy environment) ↔ ∀ entry ∈ entries, ∀ text,
    environment.text? entry.name = some text → ∃ worth, entry.Reads text worth

theorem load_eq_ok_iff {environment : Environment} {policy : Policy} :
    load environment = .ok policy ↔ policy.SetBy environment ∧ policy.IsUsable := by
  rw [load_eq, bind_eq_ok_iff]
  simp only [bind_eq_ok_iff, read_eq_ok_iff]
  constructor
  · rintro ⟨_, set, ⟨⟩, valid, kept⟩
    obtain rfl := Except.ok.inj kept
    exact ⟨set, validate_eq_ok_iff.mp valid⟩
  · rintro ⟨set, usable⟩
    exact ⟨policy, set, (), validate_eq_ok_iff.mpr usable, rfl⟩

theorem load_eq_error_iff {environment : Environment} {error : PolicyError} :
    load environment = .error error ↔ FirstOf (Entry.Fault environment) entries error ∨
      ∃ policy : Policy, policy.SetBy environment ∧ FirstOf Bound.Fault policy.bounds error := by
  simp only [← read_eq_error_iff, ← read_eq_ok_iff, ← validate_eq_error_iff, load_eq]
  cases read environment with
  | error cause => simp [bind, Except.bind]
  | ok policy =>
      cases validated : policy.validate with
      | error cause => simp [bind, Except.bind, validated]
      | ok => simp [bind, Except.bind, pure, Except.pure, validated]

/-- What an environment leaves unset is as by default, what it sets is read or the first failure
to do so is told, and what was read is checked. -/
theorem load_judged (environment : Environment) : Judged environment (load environment) where
  loaded_iff _ := load_eq_ok_iff
  failed_iff _ := load_eq_error_iff
  valid _ loaded := validate_eq_ok_iff.mpr (load_eq_ok_iff.mp loaded).2
  set_iff := by
    simp only [← read_eq_ok_iff]
    rw [exists_ok_iff fun _ => read_eq_error_iff]
    simp only [Entry.faultless_iff]

end Policy

end Enrolment
