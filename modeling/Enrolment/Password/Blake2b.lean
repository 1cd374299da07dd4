/-
The BLAKE2b hash without a key, for digests of one to 64 bytes. A message is
cut into blocks of 128 bytes, the last one filled up with zeros, and each block
is mixed into a chain of eight words in twelve rounds.
-/

namespace Enrolment.Blake2b

/-! ### Words and bytes, low byte first -/

def wordOfBytes (bytes : List UInt8) : UInt64 :=
  bytes.foldr (fun byte word => word <<< 8 ||| byte.toUInt64) 0

/-- The low bytes of a number. -/
def littleEndian : Nat → Nat → List UInt8
  | 0, _ => []
  | count + 1, number => UInt8.ofNat (number % 256) :: littleEndian count (number / 256)

def bytesOfWord (word : UInt64) : List UInt8 :=
  littleEndian 8 word.toNat

/-- Eight bytes to a word; bytes that do not fill a word are dropped. -/
def wordsOfBytes : List UInt8 → List UInt64
  | a :: b :: c :: d :: e :: f :: g :: h :: rest =>
      wordOfBytes [a, b, c, d, e, f, g, h] :: wordsOfBytes rest
  | _ => []

def bytesOfWords (words : List UInt64) : List UInt8 :=
  words.flatMap bytesOfWord

def rotateRight (word : UInt64) (count : UInt64) : UInt64 :=
  word >>> count ||| word <<< (64 - count)

/-! ### Rounds -/

def initialChain : Vector UInt64 8 :=
  #v[0x6a09e667f3bcc908, 0xbb67ae8584caa73b, 0x3c6ef372fe94f82b, 0xa54ff53a5f1d36f1,
    0x510e527fade682d1, 0x9b05688c2b3e6c1f, 0x1f83d9abfb41bd6b, 0x5be0cd19137e2179]

/-- The order in which the rounds take the words of a message block. -/
def schedule : List (Vector (Fin 16) 16) :=
  [#v[0, 1, 2, 3, 4, 5, 6, 7, 8, 9, 10, 11, 12, 13, 14, 15],
    #v[14, 10, 4, 8, 9, 15, 13, 6, 1, 12, 0, 2, 11, 7, 5, 3],
    #v[11, 8, 12, 0, 5, 2, 15, 13, 10, 14, 3, 6, 7, 1, 9, 4],
    #v[7, 9, 3, 1, 13, 12, 11, 14, 2, 6, 5, 10, 4, 0, 15, 8],
    #v[9, 0, 5, 7, 2, 4, 10, 15, 14, 1, 11, 12, 6, 8, 3, 13],
    #v[2, 12, 6, 10, 0, 11, 8, 3, 4, 13, 7, 5, 15, 14, 1, 9],
    #v[12, 5, 1, 15, 14, 13, 4, 10, 0, 7, 6, 3, 9, 2, 8, 11],
    #v[13, 11, 7, 14, 12, 1, 3, 9, 5, 0, 15, 4, 8, 6, 2, 10],
    #v[6, 15, 14, 9, 11, 3, 0, 8, 12, 2, 13, 7, 1, 4, 10, 5],
    #v[10, 2, 8, 4, 7, 6, 1, 5, 15, 11, 9, 14, 3, 12, 13, 0],
    #v[0, 1, 2, 3, 4, 5, 6, 7, 8, 9, 10, 11, 12, 13, 14, 15],
    #v[14, 10, 4, 8, 9, 15, 13, 6, 1, 12, 0, 2, 11, 7, 5, 3]]

abbrev Words := Vector UInt64 16

/-- Mixes two message words into four working words. -/
def mix (work : Words) (a b c d : Fin 16) (x y : UInt64) : Words :=
  let wa := work[a] + work[b] + x
  let wd := rotateRight (work[d] ^^^ wa) 32
  let wc := work[c] + wd
  let wb := rotateRight (work[b] ^^^ wc) 24
  let wa := wa + wb + y
  let wd := rotateRight (wd ^^^ wa) 16
  let wc := wc + wd
  let wb := rotateRight (wb ^^^ wc) 63
  (((work.set a wa).set b wb).set c wc).set d wd

/-- The four columns of the working words, then the four diagonals. -/
def round (message work : Words) (order : Vector (Fin 16) 16) : Words :=
  let take (position : Fin 16) : UInt64 := message[order[position]]
  let work := mix work 0 4 8 12 (take 0) (take 1)
  let work := mix work 1 5 9 13 (take 2) (take 3)
  let work := mix work 2 6 10 14 (take 4) (take 5)
  let work := mix work 3 7 11 15 (take 6) (take 7)
  let work := mix work 0 5 10 15 (take 8) (take 9)
  let work := mix work 1 6 11 12 (take 10) (take 11)
  let work := mix work 2 7 8 13 (take 12) (take 13)
  mix work 3 4 9 14 (take 14) (take 15)

/-- Mixes a block into the chain. `total` counts the message bytes so far. -/
def compress (chain : Vector UInt64 8) (block : List UInt8) (total : Nat) (isLast : Bool) :
    Vector UInt64 8 :=
  let words := wordsOfBytes block
  let message : Words := Vector.ofFn fun index => words.getD index.val 0
  let low := UInt64.ofNat total
  let high := UInt64.ofNat (total / Nat.pow 2 64)
  let ending : UInt64 := if isLast then 0xffffffffffffffff else 0
  let start : Words :=
    (chain ++ initialChain).set 12 (initialChain[4] ^^^ low)
      |>.set 13 (initialChain[5] ^^^ high)
      |>.set 14 (initialChain[6] ^^^ ending)
  let work := schedule.foldl (round message) start
  Vector.ofFn fun index => chain[index] ^^^ work[index.val] ^^^ work[index.val + 8]

/-! ### Hashing -/

def blockSize : Nat := 128

/-- Absorbs what is left of a message, in at most `blocks` further blocks. -/
def absorb (chain : Vector UInt64 8) (consumed : Nat) :
    Nat → List UInt8 → Vector UInt64 8
  | 0, _ => chain
  | blocks + 1, message =>
      let block := message.take blockSize
      let rest := message.drop blockSize
      let total := consumed + block.length
      let filled := block ++ List.replicate (blockSize - block.length) 0
      if rest = [] then compress chain filled total true
      else absorb (compress chain filled total false) total blocks rest

/-- The digest of a message, `length` bytes of it. -/
def hash (length : Nat) (message : List UInt8) : List UInt8 :=
  let start := initialChain.set 0 (initialChain[0] ^^^ 0x01010000 ^^^ UInt64.ofNat length)
  (bytesOfWords (absorb start 0 (message.length / blockSize + 1) message).toList).take length

end Enrolment.Blake2b
