import Chip8.Word

/-! Return addresses. Sixteen frames and a signed 32-bit pointer to the next free one; the
pointer is checked before a call or a return, not here, so `push` and `pop` also say what
happens when it lies outside the frames. -/
namespace Chip8

structure CallStack where
  frames : Vector UInt16 16
  pointer : Int
deriving DecidableEq

namespace CallStack

def empty : CallStack := ⟨Vector.replicate 16 0, 0⟩

def isFull (s : CallStack) : Bool := decide (16 ≤ s.pointer)

def isEmpty (s : CallStack) : Bool := decide (s.pointer ≤ 0)

/-- A negative index counts from the last frame. -/
def position (i : Int) : Int := if i < 0 then i + 16 else i

/-- Reading outside the frames reads the nearest one. -/
def read (s : CallStack) (i : Int) : UInt16 :=
  s.frames[Nibble.ofNat (min (position i).toNat 15)]

/-- Writing outside the frames is lost. -/
def write (s : CallStack) (i : Int) (v : UInt16) : Vector UInt16 16 :=
  if h : 0 ≤ position i ∧ position i < 16 then
    s.frames.set (position i).toNat v (by omega)
  else s.frames

/-- The pointer is kept in 32 bits. -/
def move (s : CallStack) (delta : Int) : Int := (s.pointer + delta).bmod 4294967296

/-- Only the low twelve bits of an address are kept. -/
def push (s : CallStack) (a : UInt16) : CallStack :=
  ⟨s.write s.pointer (Address.ofNat a.toNat).toWord, s.move 1⟩

/-- The popped frame is cleared. -/
def pop (s : CallStack) : CallStack × UInt16 :=
  let p := s.move (-1)
  (⟨s.write p 0, p⟩, s.read p)

end CallStack

end Chip8
