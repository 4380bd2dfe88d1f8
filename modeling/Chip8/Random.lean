/-
  Chip8/Random.lean
  =================
  **The random byte stream** — a counter-based generator: a key of two 32-bit
  words is scrambled by twenty rounds of Threefry, and every draw splits the
  key into the key of the next draw and the byte of this one.

  The stream is therefore a function of the first key alone: the byte of draw
  `j` is `byte` of the `j`-fold `next` of that key.
-/
namespace Chip8.Random

/-- The state of the generator: a pair of 32-bit words. -/
structure Key where
  hi : UInt32
  lo : UInt32
  deriving DecidableEq, Repr

/-- The seeds are below this number, and not below its negative: 64 signed bits. -/
def seedLimit : Int := 0x8000000000000000

/-- The number of words of 32 bits. -/
def wordCount : Int := 0x100000000

/-- The generator started from a 64-bit signed seed; a seed outside that range
    has no key. -/
def Key.ofSeed? (seed : Int) : Option Key :=
  if -seedLimit ≤ seed ∧ seed < seedLimit then
    some ⟨0, UInt32.ofNat (seed % wordCount).toNat⟩
  else none

/-- Rotate a word to the left. -/
def rotate (x : UInt32) (amount : UInt32) : UInt32 := (x <<< amount) ||| (x >>> (32 - amount))

/-- One round: add, rotate, mix. -/
def mixRound (x : UInt32 × UInt32) (amount : UInt32) : UInt32 × UInt32 :=
  let a := x.1 + x.2
  (a, rotate x.2 amount ^^^ a)

/-- The rotations of the even groups of four rounds. -/
def evenRotations : List UInt32 := [13, 15, 26, 6]

/-- The rotations of the odd groups of four rounds. -/
def oddRotations : List UInt32 := [17, 29, 16, 24]

/-- Four rounds followed by the injection of key words and the group number. -/
def mixGroup (rotations : List UInt32) (k k' number : UInt32) (x : UInt32 × UInt32) :
    UInt32 × UInt32 :=
  let y := rotations.foldl mixRound x
  (y.1 + k, y.2 + k' + number)

/-- Threefry on two 32-bit words with twenty rounds: scramble a counter under a key. -/
def threefry (key : Key) (counter : UInt32 × UInt32) : Key :=
  let k0 := key.hi
  let k1 := key.lo
  let k2 := k0 ^^^ k1 ^^^ 0x1BD11BDA
  let x := (counter.1 + k0, counter.2 + k1)
  let x := mixGroup evenRotations k1 k2 1 x
  let x := mixGroup oddRotations k2 k0 2 x
  let x := mixGroup evenRotations k0 k1 3 x
  let x := mixGroup oddRotations k1 k2 4 x
  let x := mixGroup evenRotations k2 k0 5 x
  ⟨x.1, x.2⟩

/-- The key that the next draw uses. -/
def Key.next (key : Key) : Key := threefry key (0, 0)

/-- The byte that a draw yields: the folded block of a key split off twice. -/
def Key.byte (key : Key) : UInt8 :=
  let block := threefry (threefry (threefry key (0, 1)) (0, 1)) (0, 0)
  (block.hi ^^^ block.lo).toUInt8

end Chip8.Random
