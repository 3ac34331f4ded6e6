/-! The random bytes of the machine: a counter cipher (Threefry, two 32-bit words, twenty
rounds) keyed by the seed. Each draw replaces the key and yields one byte, so the stream is
a function of the seed and of the number of draws. -/
namespace Chip8

structure StreamKey where
  high : UInt32
  low : UInt32
deriving DecidableEq, Repr

namespace StreamKey

def rotateLeft (x r : UInt32) : UInt32 := (x <<< r) ||| (x >>> (32 - r))

structure Block where
  left : UInt32
  right : UInt32
deriving DecidableEq

def mix (b : Block) (r : UInt32) : Block :=
  let left := b.left + b.right
  ⟨left, rotateLeft b.right r ^^^ left⟩

def evenRotations : List UInt32 := [13, 15, 26, 6]

def oddRotations : List UInt32 := [17, 29, 16, 24]

/-- Four mixing steps followed by the injection of two key words and the round number. -/
def round (b : Block) (rotations : List UInt32) (k₀ k₁ n : UInt32) : Block :=
  let b := rotations.foldl mix b
  ⟨b.left + k₀, b.right + k₁ + n⟩

/-- The cipher applied to a two-word counter. -/
def encrypt (k : StreamKey) (c₀ c₁ : UInt32) : Block :=
  let k₂ := k.high ^^^ k.low ^^^ 0x1BD11BDA
  let b := Block.mk (c₀ + k.high) (c₁ + k.low)
  let b := round b evenRotations k.low k₂ 1
  let b := round b oddRotations k₂ k.high 2
  let b := round b evenRotations k.high k.low 3
  let b := round b oddRotations k.low k₂ 4
  round b evenRotations k₂ k.high 5

/-- The key that replaces `k` after a draw. -/
def next (k : StreamKey) : StreamKey :=
  let b := k.encrypt 0 0
  ⟨b.left, b.right⟩

/-- The byte drawn at `k`. -/
def byte (k : StreamKey) : UInt8 :=
  let s := k.encrypt 0 1
  let b := StreamKey.encrypt ⟨s.left, s.right⟩ 0 0
  (b.left ^^^ b.right).toUInt8

/-- Seeds are signed 64-bit integers; only their low 32 bits matter. -/
def ofSeed? (seed : Int) : Option StreamKey :=
  if -9223372036854775808 ≤ seed ∧ seed < 9223372036854775808 then
    some ⟨0, UInt32.ofNat (seed % 4294967296).toNat⟩
  else none

end StreamKey

end Chip8
