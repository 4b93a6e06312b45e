import Starlane.Chance.Dice

/-!
# Seeded streams

A stream of 32-bit words from a 64-bit seed: the seed is expanded to a key of 256 bits, and the
words are the ChaCha key stream of that key with twelve rounds and a 64-bit block counter.
-/

namespace Starlane.Chance

/-- Sixteen words: the state of one block. -/
abbrev Block := Vector UInt32 16

/-- Rotation to the left. -/
def rotateLeft (x : UInt32) (n : UInt32) : UInt32 :=
  (x <<< n) ||| (x >>> (32 - n))

/-- Adds one word to another, and mixes the sum into a third by exclusive or and rotation. -/
def mix (block : Block) (a b d : Fin 16) (turn : UInt32) : Block :=
  let sum := block.get a + block.get b
  let block := block.set a sum
  block.set d (rotateLeft (block.get d ^^^ sum) turn)

/-- The quarter round on four words of the block. -/
def quarterRound (block : Block) (a b c d : Fin 16) : Block :=
  let block := mix block a b d 16
  let block := mix block c d b 12
  let block := mix block a b d 8
  mix block c d b 7

/-- A round on the columns and a round on the diagonals. -/
def doubleRound (block : Block) : Block :=
  let block := quarterRound block 0 4 8 12
  let block := quarterRound block 1 5 9 13
  let block := quarterRound block 2 6 10 14
  let block := quarterRound block 3 7 11 15
  let block := quarterRound block 0 5 10 15
  let block := quarterRound block 1 6 11 12
  let block := quarterRound block 2 7 8 13
  quarterRound block 3 4 9 14

/-- The words of a block: twelve rounds on its state, added to that state. -/
def scramble (start : Block) : List UInt32 :=
  let mixed := Nat.repeat doubleRound 6 start
  (Vector.zipWith (· + ·) mixed start).toList

/-- A key stream: the key, the number of the next block, and the words of the last block that are
still to come. -/
structure Stream where
  key : Vector UInt32 8
  counter : UInt64
  pending : List UInt32
  deriving DecidableEq, Repr

/-- The state of a block: four constants, the key, the block counter and a zero nonce. -/
def Stream.start (key : Vector UInt32 8) (counter : UInt64) : Block :=
  let constants : Vector UInt32 4 := #v[0x61707865, 0x3320646e, 0x79622d32, 0x6b206574]
  let position : Vector UInt32 4 := #v[counter.toUInt32, (counter >>> 32).toUInt32, 0, 0]
  constants ++ key ++ position

/-- The next word of a stream. -/
def Stream.next (stream : Stream) : UInt32 × Stream :=
  match stream.pending with
  | word :: pending => (word, { stream with pending })
  | [] =>
    match scramble (Stream.start stream.key stream.counter) with
    | [] => (0, { stream with counter := stream.counter + 1 })
    | word :: pending => (word, { stream with counter := stream.counter + 1, pending })

/-- The words of a key from a seed: a linear congruence steps the seed, and each step yields its
upper bits, folded and rotated. -/
def keyWords : Nat → UInt64 → List UInt32
  | 0, _ => []
  | n + 1, seed =>
    let seed := seed * 6364136223846793005 + 11634580027462260723
    let folded := (((seed >>> 18) ^^^ seed) >>> 27).toUInt32
    let turn := (seed >>> 59).toUInt32
    ((folded >>> turn) ||| (folded <<< ((32 - turn) % 32))) :: keyWords n seed

theorem length_keyWords (n : Nat) (seed : UInt64) : (keyWords n seed).length = n := by
  induction n generalizing seed with
  | zero => rfl
  | succ n ih => simp [keyWords, ih]

/-- The stream of a seed. -/
def Stream.ofSeed (seed : UInt64) : Stream :=
  ⟨⟨(keyWords 8 seed).toArray, by simp [length_keyWords]⟩, 0, []⟩

/-- A draw of 64 bits takes two words, the low half first.  At most half of all words are rejected
by a bounded draw, so a thousand rejections in a row do not happen. -/
instance : Dice Stream where
  half := Stream.next
  full stream :=
    let (low, stream) := stream.next
    let (high, stream) := stream.next
    (high.toUInt64 <<< 32 ||| low.toUInt64, stream)
  patience _ := 1000

/-- The stream seeded by the first 64-bit draw of another seed's stream. -/
def Stream.reseeded (seed : UInt64) : Stream :=
  Stream.ofSeed (Dice.full (Stream.ofSeed seed)).1

end Starlane.Chance
