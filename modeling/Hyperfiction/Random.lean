/-! # Random choice

    A reproducible random sequence: a seed is spread over a key of eight words,
    the key generates blocks of sixteen words by the ChaCha permutation with
    twelve rounds, and the words of the blocks are used in order. A choice among
    `n` takes 64 bits at a time and rejects the few that would favour one side.
-/

namespace Hyperfiction.Random

/-- A place in the sequence of a key. -/
structure Generator where
  /-- The eight words of the key. -/
  key : List UInt32
  /-- How many words have been used. -/
  used : Nat
deriving DecidableEq, Repr, Inhabited

/-! ## Seeds -/

/-- The word turned right by `n` bits. -/
def rotateRight (w : UInt32) (n : UInt32) : UInt32 :=
  if n % 32 = 0 then w else (w >>> (n % 32)) ||| (w <<< (32 - n % 32))

/-- The word turned left by `n` bits. -/
def rotateLeft (w : UInt32) (n : UInt32) : UInt32 :=
  rotateRight w (32 - n % 32)

/-- `count` words drawn from a linear congruence, each mixed by a rotation. -/
def spread (s : UInt64) : (count : Nat) → List UInt32
  | 0 => []
  | count + 1 =>
    let s := s * 6364136223846793005 + 11634580027462260723
    let x := (((s >>> 18) ^^^ s) >>> 27).toUInt32
    rotateRight x (s >>> 59).toUInt32 :: spread s count

/-- The generator of a seed. -/
def Generator.ofSeed (seed : UInt64) : Generator :=
  { key := spread seed 8, used := 0 }

/-! ## Blocks -/

/-- Mixes the words at four places of a block. -/
def quarterRound (b : Array UInt32) (i j k l : Nat) : Array UInt32 :=
  let w (b : Array UInt32) (i : Nat) : UInt32 := b.getD i 0
  let step (b : Array UInt32) (i j k : Nat) (n : UInt32) : Array UInt32 :=
    let b := b.setIfInBounds i (w b i + w b j)
    b.setIfInBounds k (rotateLeft (w b k ^^^ w b i) n)
  let b := step b i j l 16
  let b := step b k l j 12
  let b := step b i j l 8
  step b k l j 7

/-- Mixes the columns of a block, then its diagonals. -/
def doubleRound (b : Array UInt32) : Array UInt32 :=
  let b := quarterRound b 0 4 8 12
  let b := quarterRound b 1 5 9 13
  let b := quarterRound b 2 6 10 14
  let b := quarterRound b 3 7 11 15
  let b := quarterRound b 0 5 10 15
  let b := quarterRound b 1 6 11 12
  let b := quarterRound b 2 7 8 13
  quarterRound b 3 4 9 14

/-- The block with a number before it is mixed. -/
def seedBlock (key : List UInt32) (n : Nat) : Array UInt32 :=
  (([0x61707865, 0x3320646e, 0x79622d32, 0x6b206574] : List UInt32) ++ key ++
    [UInt32.ofNat n, UInt32.ofNat (n / UInt32.size), 0, 0]).toArray

/-- The block with a number. -/
def block (key : List UInt32) (n : Nat) : Array UInt32 :=
  let start := seedBlock key n
  let mixed := (List.range 6).foldl (fun b _ => doubleRound b) start
  Array.zipWith (· + ·) start mixed

/-- The word at a place of the sequence. -/
def word (key : List UInt32) (i : Nat) : UInt32 :=
  (block key (i / 16)).getD (i % 16) 0

/-! ## Draws -/

/-- The next 64 bits: the first word is the low half. -/
def Generator.next (g : Generator) : Nat × Generator :=
  ((word g.key g.used).toNat + (word g.key (g.used + 1)).toNat * UInt32.size,
    { g with used := g.used + 2 })

/-- The largest multiple of `n` that the low half of a product may reach. -/
def zone (n : Nat) : Nat :=
  (n <<< (63 - Nat.log2 n)) - 1

/-- A number below `n`, for `n` from 1 up to and without `2^64`; after `tries`
    rejections the next draw is taken as it is. -/
def Generator.below (n : Nat) : (tries : Nat) → Generator → Nat × Generator
  | 0, g => let (x, g) := g.next; (x * n / UInt64.size, g)
  | tries + 1, g =>
    let (x, g) := g.next
    if x * n % UInt64.size ≤ zone n then (x * n / UInt64.size, g) else Generator.below n tries g

/-- How many draws a choice may reject. -/
def maxRejections : Nat := 128

/-- A number below `n`. -/
def Generator.choose (g : Generator) (n : Nat) : Nat × Generator :=
  g.below n maxRejections

end Hyperfiction.Random
