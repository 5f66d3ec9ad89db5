import InstancedZones.Instance

/-!
# Reproducible random numbers

Content of an instance is generated from the seed of its blueprint, so the same
blueprint always gives the same content. The seed is stretched to a key of
eight words, and the numbers are the words of a stream cipher's key stream
under that key: twelve rounds, the blocks counted from zero, no nonce.
-/

namespace InstancedZones.Keystream

/-- Rotates the bits of a word to the left, by less than 32. -/
def rotateLeft (x : UInt32) (n : UInt32) : UInt32 := (x <<< n) ||| (x >>> (32 - n))

/-- Rotates the bits of a word to the right. -/
def rotateRight (x : UInt32) (n : UInt32) : UInt32 := (x >>> n) ||| (x <<< ((32 - n) % 32))

/-- The next state of the generator that stretches a seed. -/
def stretchNext (s : UInt64) : UInt64 := s * 6364136223846793005 + 11634580027462260723

/-- The word that a state of that generator gives. -/
def stretchWord (s : UInt64) : UInt32 :=
  rotateRight (((s >>> 18) ^^^ s) >>> 27).toUInt32 (s >>> 59).toUInt32

/-- So many words stretched from a state. -/
def stretch : Nat → UInt64 → List UInt32
  | 0, _ => []
  | n + 1, s => stretchWord (stretchNext s) :: stretch n (stretchNext s)

/-- The state of a block: sixteen words. -/
abbrev Block := Vector UInt32 16

/-- Mixes four words of a block. -/
def quarterRound (b : Block) (i j k l : Fin 16) : Block :=
  let b := b.set i (b[i] + b[j])
  let b := b.set l (rotateLeft (b[l] ^^^ b[i]) 16)
  let b := b.set k (b[k] + b[l])
  let b := b.set j (rotateLeft (b[j] ^^^ b[k]) 12)
  let b := b.set i (b[i] + b[j])
  let b := b.set l (rotateLeft (b[l] ^^^ b[i]) 8)
  let b := b.set k (b[k] + b[l])
  b.set j (rotateLeft (b[j] ^^^ b[k]) 7)

/-- Mixes all columns and then all diagonals of a block. -/
def doubleRound (b : Block) : Block :=
  let b := quarterRound b 0 4 8 12
  let b := quarterRound b 1 5 9 13
  let b := quarterRound b 2 6 10 14
  let b := quarterRound b 3 7 11 15
  let b := quarterRound b 0 5 10 15
  let b := quarterRound b 1 6 11 12
  let b := quarterRound b 2 7 8 13
  quarterRound b 3 4 9 14

/-- Repeats the double round. -/
def rounds : Nat → Block → Block
  | 0, b => b
  | n + 1, b => rounds n (doubleRound b)

/-- The block that the mixing starts from. -/
def startBlock (key : Vector UInt32 8) (counter : UInt64) : Block :=
  #v[0x61707865, 0x3320646e, 0x79622d32, 0x6b206574,
     key[0], key[1], key[2], key[3], key[4], key[5], key[6], key[7],
     counter.toUInt32, (counter >>> 32).toUInt32, 0, 0]

/-- A block of the key stream. -/
def block (key : Vector UInt32 8) (counter : UInt64) : Block :=
  let start := startBlock key counter
  start.zipWith (· + ·) (rounds 6 start)

/-- The key that a seed is stretched to. -/
def key (seed : UInt64) : Vector UInt32 8 := Vector.ofFn fun i => (stretch 8 seed).getD i 0

/-- The first numbers under a seed. -/
def words (seed : UInt64) (count : Nat) : List UInt32 :=
  let blocks := (List.range ((count + 15) / 16)).flatMap fun n =>
    (block (key seed) (UInt64.ofNat n)).toList
  blocks.take count

end InstancedZones.Keystream

namespace InstancedZones

/-- The first numbers that content of an instance is generated from. -/
def Instance.contentWords (i : Instance) (count : Nat) : List UInt32 := Keystream.words i.seed count

end InstancedZones
