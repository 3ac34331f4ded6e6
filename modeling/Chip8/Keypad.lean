import Chip8.Word

namespace Chip8

/-- Sixteen keys; bit `k` of the mask is set while key `k` is held down. -/
structure Keypad where
  mask : UInt16
deriving DecidableEq, Repr

namespace Keypad

def idle : Keypad := ⟨0⟩

def isDown (p : Keypad) (k : Nibble) : Bool := p.mask.toNat.testBit k.val

/-- The held key with the least number. -/
def lowest? (p : Keypad) : Option Nibble := (List.finRange 16).find? p.isDown

/-- The mask of one key. -/
def bit (k : Nibble) : UInt16 := UInt16.ofNat (1 <<< k.val)

def hold (p : Keypad) (k : Nibble) : Keypad := ⟨p.mask ||| bit k⟩

def drop (p : Keypad) (k : Nibble) : Keypad := ⟨p.mask &&& ~~~ bit k⟩

/-- The key a number names: only its low four bits count. -/
def keyOf (n : Int) : Nibble := Nibble.ofNat (n % 16).toNat

structure NoSuchKey where
  number : Int
deriving DecidableEq, Repr

def NoSuchKey.message (e : NoSuchKey) : String :=
  s!"Key must be in [0, 16), got {e.number}"

def key (n : Int) : Except NoSuchKey Nibble :=
  if 0 ≤ n ∧ n < 16 then .ok (Nibble.ofNat n.toNat) else .error ⟨n⟩

def press (p : Keypad) (n : Int) : Except NoSuchKey Keypad := (key n).map p.hold

def release (p : Keypad) (n : Int) : Except NoSuchKey Keypad := (key n).map p.drop

end Keypad

end Chip8
