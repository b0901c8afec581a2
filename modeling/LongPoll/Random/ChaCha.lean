/-
# Random words from a seed

A seed of 64 bits becomes a key of eight words: a linear congruential generator runs from the
seed, and each of its states is folded and rotated to one word. The key selects a stream.

Each block of sixteen words is made from four constants, eight words of key, a 64-bit block
counter and two zero words: six double rounds mix it, and the block before the rounds is added to
the block after them. Words are drawn in pairs, the low one first.

Key definitions: `Seed.advance`, `Seed.word`, `Seed.key`, `ChaCha.block`, `ChaCha.Stream`,
`ChaCha.Stream.ofKey`, `ChaCha.Stream.draw`.
-/
namespace LongPoll.Seed

def advance (state : UInt64) : UInt64 := state * 6364136223846793005 + 11634580027462260723

/-- The word that a state yields: it is folded to 32 bits, then rotated right by its top bits. -/
def word (state : UInt64) : UInt32 :=
  let folded := (((state >>> 18) ^^^ state) >>> 27).toUInt32
  let turn := (state >>> 59).toUInt32
  (folded >>> turn) ||| (folded <<< ((32 - turn) &&& 31))

/-- The words of the `n` states after this one. -/
def words (state : UInt64) : Nat → List UInt32
  | 0 => []
  | n + 1 =>
    let state := advance state
    word state :: words state n

def key (seed : UInt64) : List UInt32 := words seed 8

end LongPoll.Seed

namespace LongPoll.ChaCha

/-- Sixteen words, four to a row. -/
abbrev Block : Type := Vector UInt32 16

def rotateLeft (x n : UInt32) : UInt32 := (x <<< n) ||| (x >>> (32 - n))

def quarterRound (x : Block) (a b c d : Fin 16) : Block :=
  let x := x.set a (x[a] + x[b])
  let x := x.set d (rotateLeft (x[d] ^^^ x[a]) 16)
  let x := x.set c (x[c] + x[d])
  let x := x.set b (rotateLeft (x[b] ^^^ x[c]) 12)
  let x := x.set a (x[a] + x[b])
  let x := x.set d (rotateLeft (x[d] ^^^ x[a]) 8)
  let x := x.set c (x[c] + x[d])
  x.set b (rotateLeft (x[b] ^^^ x[c]) 7)

/-- A round over the columns and one over the diagonals. -/
def doubleRound (x : Block) : Block :=
  let x := quarterRound x 0 4 8 12
  let x := quarterRound x 1 5 9 13
  let x := quarterRound x 2 6 10 14
  let x := quarterRound x 3 7 11 15
  let x := quarterRound x 0 5 10 15
  let x := quarterRound x 1 6 11 12
  let x := quarterRound x 2 7 8 13
  quarterRound x 3 4 9 14

def rounds (x : Block) : Nat → Block
  | 0 => x
  | n + 1 => rounds (doubleRound x) n

def initial (key : List UInt32) (counter : Nat) : Block :=
  let k (i : Nat) : UInt32 := key.getD i 0
  #v[0x61707865, 0x3320646e, 0x79622d32, 0x6b206574, k 0, k 1, k 2, k 3, k 4, k 5, k 6, k 7,
    UInt32.ofNat counter, UInt32.ofNat (counter / Nat.pow 2 32), 0, 0]

/-- Block number `counter` of the stream of a key. -/
def block (key : List UInt32) (counter : Nat) : Block :=
  let start := initial key counter
  Vector.zipWith (· + ·) (rounds start 6) start

/-- The stream of a key, and how many pairs of words have been drawn from it. -/
structure Stream where
  key : List UInt32
  drawn : Nat
  /-- The block of the next pair; eight pairs make a block. -/
  current : Block
  current_eq : current = block key (drawn / 8)
deriving DecidableEq

def Stream.ofKey (key : List UInt32) : Stream :=
  { key, drawn := 0, current := block key 0, current_eq := rfl }

/-- The next two words as one number, the first of them low. -/
def Stream.draw (s : Stream) : Nat × Stream :=
  let ⟨key, drawn, current, current_eq⟩ := s
  let low := current.get ⟨2 * (drawn % 8), by omega⟩
  let high := current.get ⟨2 * (drawn % 8) + 1, by omega⟩
  (low.toNat + high.toNat * Nat.pow 2 32,
    { key, drawn := drawn + 1
      current := if (drawn + 1) % 8 = 0 then block key ((drawn + 1) / 8) else current
      current_eq := by
        split
        · rfl
        · rw [current_eq, show (drawn + 1) / 8 = drawn / 8 by omega] })

end LongPoll.ChaCha
